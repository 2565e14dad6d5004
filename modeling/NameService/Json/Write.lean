import NameService.Text.Decimal

/-!
# Writing JSON

Compact JSON text: no spaces, members in the order given. Strings escape the
quote, the backslash and the controls below U+0020 and keep every other
character as it is.
-/

namespace NameService
namespace Json

/-- A hexadecimal digit in lower case. -/
def hexDigit (value : Nat) : Char := Nat.digitChar value

/-- A character as it stands inside a JSON string. -/
def stringChar (c : Char) : List Char :=
  if c = '"' then ['\\', '"']
  else if c = '\\' then ['\\', '\\']
  else if c = '\x08' then ['\\', 'b']
  else if c = '\t' then ['\\', 't']
  else if c = '\n' then ['\\', 'n']
  else if c = '\x0c' then ['\\', 'f']
  else if c = '\r' then ['\\', 'r']
  else if c.toNat < 0x20 then
    ['\\', 'u', '0', '0', hexDigit (c.toNat / 16), hexDigit (c.toNat % 16)]
  else [c]

/-- The characters of a JSON string after its opening quote. -/
def stringBody (text : List Char) : List Char :=
  text.flatMap stringChar ++ ['"']

@[simp] theorem stringBody_nil : stringBody [] = ['"'] := rfl

@[simp] theorem stringBody_cons (c : Char) (text : List Char) :
    stringBody (c :: text) = stringChar c ++ stringBody text := by
  simp [stringBody]

/-- A text as a JSON string. -/
def string (text : String) : List Char := '"' :: stringBody text.toList

/-- A word as a JSON number. -/
def number (value : Nat) : List Char := Text.decimal value

/-- A truth value as a JSON literal. -/
def boolean : Bool → List Char
  | true => "true".toList
  | false => "false".toList

/-- Items between commas. -/
def commaSeparated : List (List Char) → List Char
  | [] => []
  | [item] => item
  | item :: rest => item ++ ',' :: commaSeparated rest

/-- A JSON array of items already written. -/
def array (items : List (List Char)) : List Char :=
  '[' :: commaSeparated items ++ [']']

/-- A member of a JSON object. -/
def member (name : String) (value : List Char) : List Char :=
  string name ++ ':' :: value

/-- A JSON object of members already written. -/
def object (members : List (List Char)) : List Char :=
  '\x7b' :: commaSeparated members ++ ['\x7d']

end Json
end NameService
