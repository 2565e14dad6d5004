import NameService.Text.Decimal
import NameService.Text.Split
import NameService.Text.Utf8

/-!
# Query strings

Pairs of names and values between ampersands. A plus sign stands for a space and
a percent sign with two hexadecimal digits for a byte.
-/

namespace NameService
namespace Http

/-- The value of a hexadecimal digit in either case. -/
def hexDigit? (byte : UInt8) : Option UInt8 :=
  if 48 ≤ byte ∧ byte ≤ 57 then some (byte - 48)
  else if 97 ≤ byte ∧ byte ≤ 102 then some (byte - 87)
  else if 65 ≤ byte ∧ byte ≤ 70 then some (byte - 55)
  else none

/-- The bytes that an encoded text stands for. A percent sign without two digits
stands for itself. -/
def decodeForm : List UInt8 → List UInt8
  | [] => []
  | 37 :: high :: low :: rest =>
      match hexDigit? high, hexDigit? low with
      | some high, some low => (high * 16 + low) :: decodeForm rest
      | _, _ => 37 :: decodeForm (high :: low :: rest)
  | byte :: rest => (if byte = 43 then 32 else byte) :: decodeForm rest

/-- The characters that an encoded text stands for, if they are UTF-8. -/
def formText? (bytes : List UInt8) : Option (List Char) :=
  Text.ofUtf8? (decodeForm bytes)

/-- The pairs of a query string. A part without an equals sign has an empty
value, and empty parts do not count. -/
def queryPairs (query : List Char) :
    List (Option (List Char) × Option (List Char)) :=
  ((Text.split (· == 38) (Text.utf8 query)).filter fun part =>
    !part.isEmpty).map fun part =>
    match Text.splitOnce (· == 61) part with
    | some (name, value) => (formText? name, formText? value)
    | none => (formText? part, some [])

/-- The word under a name that has to stand in a query string exactly once. -/
def queryWord? (name : String) (query : List Char) : Option Nat :=
  match (queryPairs query).filter fun pair => pair.1 == some name.toList with
  | [(_, some value)] => Text.decimal? value
  | _ => none

end Http
end NameService
