/-!
# Ranges of characters

A set of characters is written as inclusive ranges of code points.
-/

namespace NameService
namespace Text

/-- Whether a character lies in one of the ranges. -/
def inRanges (ranges : List (Nat × Nat)) (c : Char) : Bool :=
  ranges.any fun range => range.1 ≤ c.toNat && c.toNat ≤ range.2

end Text
end NameService
