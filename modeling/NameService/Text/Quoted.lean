import NameService.Text.Printable

/-!
# Quoted text

The form in which error messages show names, lines and paths: between double
quotes, with short escapes for the quote, the backslash and four controls, and
with the code point in hexadecimal for every other unprintable character.
-/

namespace NameService
namespace Text

/-- The shortest hexadecimal numeral of a number, in lower case. -/
def hexadecimal (value : Nat) : List Char := Nat.toDigits 16 value

/-- A character as it stands between the quotes. -/
def quotedChar (c : Char) : List Char :=
  if c = '"' then ['\\', '"']
  else if c = '\\' then ['\\', '\\']
  else if c = '\n' then ['\\', 'n']
  else if c = '\r' then ['\\', 'r']
  else if c = '\t' then ['\\', 't']
  else if c = '\x00' then ['\\', '0']
  else if isUnprintable c then
    ['\\', 'u', '\x7b'] ++ hexadecimal c.toNat ++ ['\x7d']
  else [c]

/-- A text between double quotes. -/
def quoted (text : String) : String :=
  String.ofList ('"' :: text.toList.flatMap quotedChar ++ ['"'])

end Text
end NameService
