import NameService.Sorting
import NameService.Text.Decimal
import NameService.Text.Split

/-!
# Spans

The transaction ids that a segment covers, both ends included, and the name of
the segment's file: the two ends in decimal with an underscore between them and
the ending `.log`.
-/

namespace NameService

/-- An inclusive range of transaction ids. -/
structure Span where
  first : Nat
  last : Nat
  deriving DecidableEq, Repr

namespace Span

/-- The ending of segment files. -/
def ending : List Char := ".log".toList

/-- Whether a span covers a transaction id. -/
def covers (span : Span) (txid : Nat) : Bool :=
  span.first ≤ txid && txid ≤ span.last

/-- The characters of the name of a segment file. -/
def fileNameChars (span : Span) : List Char :=
  Text.decimal span.first ++ '_' :: Text.decimal span.last ++ ending

/-- The name of the segment file of a span. -/
def fileName (span : Span) : String := String.ofList span.fileNameChars

/-- A text without an ending, if it has it. -/
def withoutEnding? (ending text : List Char) : Option (List Char) :=
  if ending.isSuffixOf text then
    some (text.take (text.length - ending.length)) else none

/-- The span that the characters of a file name tell, if they tell one. The
ends may be written with a plus sign or leading zeros. -/
def ofChars? (name : List Char) : Option Span := do
  let stem ← withoutEnding? ending name
  let (first, last) ← Text.splitOnce (· == '_') stem
  let span : Span := ⟨← Text.decimal? first, ← Text.decimal? last⟩
  if span.first ≤ span.last then some span else none

/-- The span that a file name tells, if it tells one. -/
def ofFileName? (name : String) : Option Span := ofChars? name.toList

/-- The order of spans by their first and then their last transaction id. -/
def below (left right : Span) : Bool :=
  left.first < right.first ||
    (left.first == right.first && left.last ≤ right.last)

/-- The spans that file names tell, in ascending order. -/
def ofFileNames (names : List String) : List Span :=
  Sorting.sort below (names.filterMap ofFileName?)

end Span
end NameService
