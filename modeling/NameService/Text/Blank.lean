/-!
# Blank characters

The characters with the Unicode property White_Space. They decide which path
segments are skipped, which lines of a segment are skipped, and what trimming
removes.
-/

namespace NameService
namespace Text

/-- The code points with the property White_Space, as inclusive ranges. -/
def blankRanges : List (Nat × Nat) :=
  [(0x09, 0x0D), (0x20, 0x20), (0x85, 0x85), (0xA0, 0xA0), (0x1680, 0x1680),
    (0x2000, 0x200A), (0x2028, 0x2029), (0x202F, 0x202F), (0x205F, 0x205F),
    (0x3000, 0x3000)]

/-- Whether a character has the property White_Space. -/
def isBlank (c : Char) : Bool :=
  blankRanges.any fun range => range.1 ≤ c.toNat && c.toNat ≤ range.2

/-- Whether a text has no character other than blank ones. -/
def allBlank (text : List Char) : Bool := text.all isBlank

@[simp] theorem allBlank_nil : allBlank [] = true := rfl

@[simp] theorem allBlank_cons (c : Char) (text : List Char) :
    allBlank (c :: text) = (isBlank c && allBlank text) := rfl

/-- The text without its leading blank characters. -/
def trimStart (text : List Char) : List Char := text.dropWhile isBlank

/-- The text without its trailing blank characters. -/
def trimEnd (text : List Char) : List Char :=
  (text.reverse.dropWhile isBlank).reverse

/-- The text without its leading and trailing blank characters. -/
def trim (text : List Char) : List Char := trimEnd (trimStart text)

example : isBlank ' ' ∧ isBlank '\x0b' ∧ isBlank '\u3000' ∧ ¬ isBlank '\u200b' ∧
    ¬ isBlank '\x1c' := by decide

end Text
end NameService
