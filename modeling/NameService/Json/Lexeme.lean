import NameService.Text.Decimal

/-!
# Lexemes of JSON

Blank space, literals, strings and numbers at the head of a text. The text is a
list of positions, so bytes that are not UTF-8 can be stepped over where a
string is only skipped and are refused where it is read.
-/

namespace NameService
namespace Json

/-- A text that may have undecodable positions. -/
abbrev Symbols := List (Option Char)

/-- Why a text is not read. -/
inductive Fault
  /-- The text is not JSON. -/
  | malformed
  /-- The text is JSON of another shape than the one asked for. -/
  | mismatch
  deriving DecidableEq, Repr

/-- A reader takes a value from the head of a text and leaves the rest. -/
abbrev Reader (α : Type) := Symbols → Except Fault (α × Symbols)

/-- The four blank characters of JSON. -/
def isSpace (c : Char) : Bool := c == ' ' || c == '\t' || c == '\n' || c == '\r'

/-- The text after its leading blank characters. -/
def skipSpace : Symbols → Symbols
  | some c :: rest => if isSpace c then skipSpace rest else some c :: rest
  | text => text

/-- The text after a literal that stands at its head. -/
def expect : List Char → Symbols → Except Fault Symbols
  | [], text => .ok text
  | c :: literal, some d :: rest => if c = d then expect literal rest else
    .error .malformed
  | _ :: _, _ => .error .malformed

/-- The value of a hexadecimal digit in either case. -/
def hexValue? : Option Char → Option Nat
  | some c =>
      if '0' ≤ c ∧ c ≤ '9' then some (c.toNat - '0'.toNat)
      else if 'a' ≤ c ∧ c ≤ 'f' then some (c.toNat - 'a'.toNat + 10)
      else if 'A' ≤ c ∧ c ≤ 'F' then some (c.toNat - 'A'.toNat + 10)
      else none
  | none => none

/-- The code unit that four hexadecimal digits name. -/
def codeUnit? (first second third fourth : Option Char) : Option Nat := do
  let a ← hexValue? first
  let b ← hexValue? second
  let c ← hexValue? third
  let d ← hexValue? fourth
  pure (((a * 16 + b) * 16 + c) * 16 + d)

/-- Whether a code unit opens a surrogate pair. -/
def isHighSurrogate (unit : Nat) : Bool := 0xD800 ≤ unit && unit ≤ 0xDBFF

/-- Whether a code unit closes a surrogate pair. -/
def isLowSurrogate (unit : Nat) : Bool := 0xDC00 ≤ unit && unit ≤ 0xDFFF

/-- The character of a surrogate pair. -/
def pairedChar (high low : Nat) : Char :=
  Char.ofNat (0x10000 + (high - 0xD800) * 0x400 + (low - 0xDC00))

/-- The character that a one-letter escape names. -/
def shortEscape? (c : Char) : Option Char :=
  if c = '"' then some '"'
  else if c = '\\' then some '\\'
  else if c = '/' then some '/'
  else if c = 'b' then some '\x08'
  else if c = 'f' then some '\x0c'
  else if c = 'n' then some '\n'
  else if c = 'r' then some '\r'
  else if c = 't' then some '\t'
  else none

/-- Put a character in front of a string that is read. -/
def consChar (c : Char) (result : Except Fault (List Char × Symbols)) :
    Except Fault (List Char × Symbols) :=
  result.map fun (text, rest) => (c :: text, rest)

/-- Read a string after its opening quote. Controls, undecodable positions and
lone surrogates are refused. -/
def readString : Symbols → Except Fault (List Char × Symbols)
  | [] => .error .malformed
  | none :: _ => .error .malformed
  | some c :: rest =>
      if c = '"' then .ok ([], rest)
      else if c = '\\' then
        match rest with
        | some 'u' :: a :: b :: c :: d :: rest =>
            match codeUnit? a b c d with
            | none => .error .malformed
            | some unit =>
                if isHighSurrogate unit then
                  match rest with
                  | some '\\' :: some 'u' :: a :: b :: c :: d :: rest =>
                      match codeUnit? a b c d with
                      | none => .error .malformed
                      | some low =>
                          if isLowSurrogate low then
                            consChar (pairedChar unit low) (readString rest)
                          else .error .malformed
                  | _ => .error .malformed
                else if isLowSurrogate unit then .error .malformed
                else consChar (Char.ofNat unit) (readString rest)
        | some letter :: rest =>
            match shortEscape? letter with
            | some escaped => consChar escaped (readString rest)
            | none => .error .malformed
        | _ => .error .malformed
      else if c.toNat < 0x20 then .error .malformed
      else consChar c (readString rest)

/-- Step over a string after its opening quote. Only controls and unknown
escapes are refused. -/
def skipString : Symbols → Except Fault Symbols
  | [] => .error .malformed
  | none :: rest => skipString rest
  | some c :: rest =>
      if c = '"' then .ok rest
      else if c = '\\' then
        match rest with
        | some 'u' :: a :: b :: c :: d :: rest =>
            match codeUnit? a b c d with
            | none => .error .malformed
            | some _ => skipString rest
        | some letter :: rest =>
            match shortEscape? letter with
            | some _ => skipString rest
            | none => .error .malformed
        | _ => .error .malformed
      else if c.toNat < 0x20 then .error .malformed
      else skipString rest

/-- A number as it is written. -/
structure Numeral where
  /-- Whether a minus sign stands in front. -/
  negative : Bool
  /-- The digits of the whole part. -/
  whole : List Nat
  /-- The digits after the point, if there is one. -/
  fraction : Option (List Nat)
  /-- The sign (`true` for minus) and the digits of the exponent, if there is
  one. -/
  exponent : Option (Bool × List Nat)
  deriving Repr

/-- The digits at the head of a text. -/
def takeDigits : Symbols → List Nat × Symbols
  | some c :: rest =>
      if c.isDigit then
        let (digits, after) := takeDigits rest
        ((c.toNat - '0'.toNat) :: digits, after)
      else ([], some c :: rest)
  | text => ([], text)

/-- At least one digit at the head of a text. -/
def takeSomeDigits (text : Symbols) : Except Fault (List Nat × Symbols) :=
  match takeDigits text with
  | ([], _) => .error .malformed
  | found => .ok found

/-- The whole part of a number: a lone zero, or digits of which the first is not
zero. -/
def takeWhole (text : Symbols) : Except Fault (List Nat × Symbols) :=
  match takeDigits text with
  | ([], _) => .error .malformed
  | (0 :: _ :: _, _) => .error .malformed
  | found => .ok found

/-- The fraction at the head of a text, if a point stands there. -/
def takeFraction : Symbols → Except Fault (Option (List Nat) × Symbols)
  | some '.' :: rest => (takeSomeDigits rest).map fun (digits, after) =>
      (some digits, after)
  | text => .ok (none, text)

/-- The sign in front of an exponent, plus if there is none. -/
def takeSign : Symbols → Bool × Symbols
  | some '+' :: rest => (false, rest)
  | some '-' :: rest => (true, rest)
  | text => (false, text)

/-- The exponent at the head of a text, if an `e` stands there. -/
def takeExponent : Symbols → Except Fault (Option (Bool × List Nat) × Symbols)
  | some c :: rest =>
      if c = 'e' ∨ c = 'E' then
        let (minus, digits) := takeSign rest
        (takeSomeDigits digits).map fun (digits, after) =>
          (some (minus, digits), after)
      else .ok (none, some c :: rest)
  | text => .ok (none, text)

/-- The numeral at the head of a text. -/
def takeNumeral (text : Symbols) : Except Fault (Numeral × Symbols) := do
  let (negative, text) :=
    match text with
    | some '-' :: rest => (true, rest)
    | _ => (false, text)
  let (whole, text) ← takeWhole text
  let (fraction, text) ← takeFraction text
  let (exponent, text) ← takeExponent text
  pure (⟨negative, whole, fraction, exponent⟩, text)

namespace Numeral

/-- The number that decimal digits name. -/
def valueOfDigits (digits : List Nat) : Nat :=
  digits.foldl (fun value digit => value * 10 + digit) 0

/-- The word that a numeral names: no sign, point or exponent, and below
`2 ^ 64`. -/
def word? (numeral : Numeral) : Option Nat :=
  if numeral.negative ∨ numeral.fraction.isSome ∨ numeral.exponent.isSome then
    none
  else
    let value := valueOfDigits numeral.whole
    if value ≤ Word.max then some value else none

/-- A decimal significand that fits a word, and the power of ten it is scaled
by. -/
structure Scaled where
  significand : Nat
  power : Int

/-- Take in digits of the whole part. From the first digit that does not fit,
digits only scale. -/
def scaleWhole : Nat → List Nat → Scaled
  | significand, [] => ⟨significand, 0⟩
  | significand, digit :: rest =>
      if significand * 10 + digit ≤ Word.max then
        scaleWhole (significand * 10 + digit) rest
      else ⟨significand, rest.length + 1⟩

/-- Take in digits after the point up to the first that does not fit. -/
def scaleFraction : Scaled → List Nat → Scaled
  | scaled, [] => scaled
  | scaled, digit :: rest =>
      if scaled.significand * 10 + digit ≤ Word.max then
        scaleFraction ⟨scaled.significand * 10 + digit, scaled.power - 1⟩ rest
      else scaled

/-- The significand and power of a numeral. -/
def scaled (numeral : Numeral) : Scaled :=
  let base :=
    scaleFraction (scaleWhole 0 numeral.whole) (numeral.fraction.getD [])
  match numeral.exponent with
  | none => base
  | some (minus, digits) =>
      let shift : Int := valueOfDigits digits
      ⟨base.significand,
        if minus then base.power - shift else base.power + shift⟩

/-- A number rounded to 53 significant bits, ties to even. -/
def roundToDouble (value : Nat) : Nat :=
  if value < Nat.pow 2 53 then value
  else
    let unit := Nat.pow 2 (value.log2 - 52)
    let quotient := value / unit
    let twice := 2 * (value % unit)
    if twice < unit ∨ (twice = unit ∧ quotient % 2 = 0) then quotient * unit
    else (quotient + 1) * unit

/-- Whether a numeral is beyond every finite double, when its significand and
its power of ten are rounded before they are multiplied. -/
def isOutOfRange (numeral : Numeral) : Bool :=
  let number := numeral.scaled
  if number.significand = 0 ∨ number.power < 0 then false
  else if 308 < number.power then true
  else
    Nat.pow 2 1024 - Nat.pow 2 970 ≤
      roundToDouble number.significand *
        roundToDouble (Nat.pow 10 number.power.toNat)

end Numeral

/-- The numeral at the head of a text, unless it is out of range. -/
def readNumeral (text : Symbols) : Except Fault (Numeral × Symbols) := do
  let (numeral, rest) ← takeNumeral text
  if numeral.isOutOfRange then .error .malformed else pure (numeral, rest)

end Json
end NameService
