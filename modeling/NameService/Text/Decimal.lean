import NameService.Word

/-!
# Decimal numerals

Words are written with the fewest digits. A numeral that is read may carry one
leading plus sign and any number of leading zeros, and has to stay below
`2 ^ 64`.
-/

namespace NameService
namespace Text

/-- The shortest decimal numeral of a number. -/
def decimal (value : Nat) : List Char := Nat.toDigits 10 value

/-- Why a text is not a numeral of a word. -/
inductive NumeralError
  | empty
  | invalidDigit
  | tooLarge
  deriving DecidableEq, Repr

namespace NumeralError

/-- The wording of a numeral error. -/
def message : NumeralError → String
  | .empty => "cannot parse integer from empty string"
  | .invalidDigit => "invalid digit found in string"
  | .tooLarge => "number too large to fit in target type"

end NumeralError

/-- Read digits onto a value already read. The first fault from the left is
reported. -/
def readDigits (value : Nat) : List Char → Except NumeralError Nat
  | [] => .ok value
  | c :: rest =>
      if c.isDigit then
        let next := value * 10 + (c.toNat - '0'.toNat)
        if next ≤ Word.max then readDigits next rest else .error .tooLarge
      else .error .invalidDigit

@[simp] theorem readDigits_nil (value : Nat) :
    readDigits value [] = .ok value := rfl

/-- Read a numeral of a word. -/
def readDecimal : List Char → Except NumeralError Nat
  | [] => .error .empty
  | ['+'] => .error .invalidDigit
  | '+' :: digits => readDigits 0 digits
  | digits => readDigits 0 digits

/-- The word that a numeral names, if it is one. -/
def decimal? (text : List Char) : Option Nat := (readDecimal text).toOption

example : decimal 0 = ['0'] ∧ decimal 120 = ['1', '2', '0'] := by decide
example : decimal? "+007".toList = some 7 ∧ decimal? "-1".toList = none := by
  decide

end Text
end NameService
