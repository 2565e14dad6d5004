import NameService.Json.Lexeme

/-!
# Scanning JSON values

Stepping over one JSON value of any form. The open brackets are kept in a list,
so the nesting of a text costs no recursion. A strict scan also reads every
string, bounds the nesting and refuses numbers that are out of range; a lenient
one looks at the grammar only.
-/

namespace NameService
namespace Json

/-- An open container. -/
inductive Bracket
  | array
  | object
  deriving DecidableEq, Repr

namespace Bracket

/-- The character that closes a container. -/
def closing : Bracket → Char
  | .array => ']'
  | .object => '\x7d'

end Bracket

/-- How closely a value is looked at while it is stepped over. -/
inductive Scrutiny
  /-- The grammar only. -/
  | lenient
  /-- Strings, numbers and at most so many open containers. -/
  | strict (depth : Nat)
  deriving DecidableEq, Repr

namespace Scrutiny

/-- Step over a string after its opening quote. -/
def string : Scrutiny → Symbols → Except Fault Symbols
  | .lenient, text => skipString text
  | .strict _, text => (readString text).map Prod.snd

/-- Step over a number. -/
def number : Scrutiny → Symbols → Except Fault Symbols
  | .lenient, text => (takeNumeral text).map Prod.snd
  | .strict _, text => (readNumeral text).map Prod.snd

/-- Whether one more container may be opened inside these. -/
def allows : Scrutiny → List Bracket → Bool
  | .lenient, _ => true
  | .strict depth, brackets => brackets.length < depth

end Scrutiny

/-- What a scan looks for next. -/
inductive Expectation
  /-- A value. -/
  | value
  /-- The first item of the container just opened, or its end. -/
  | firstItem
  /-- A key. -/
  | key
  /-- What follows a finished value. -/
  | continuation
  deriving DecidableEq, Repr

/-- Step over a scalar, given a text whose first character is not blank. -/
def scanScalar (scrutiny : Scrutiny) : Symbols → Except Fault Symbols
  | some '"' :: rest => scrutiny.string rest
  | some 'n' :: rest => expect ['u', 'l', 'l'] rest
  | some 't' :: rest => expect ['r', 'u', 'e'] rest
  | some 'f' :: rest => expect ['a', 'l', 's', 'e'] rest
  | some c :: rest =>
      if c = '-' ∨ c.isDigit then scrutiny.number (some c :: rest) else
        .error .malformed
  | _ => .error .malformed

/-- Step over a key and the colon behind it. -/
def scanKey (scrutiny : Scrutiny) (text : Symbols) : Except Fault Symbols :=
  match skipSpace text with
  | some '"' :: rest => do
      match skipSpace (← scrutiny.string rest) with
      | some ':' :: rest => .ok rest
      | _ => .error .malformed
  | _ => .error .malformed

/-- Step over what is left of a value, with the open containers innermost first.
Every second step takes a character at least, so fuel of twice the text's length
and two is enough. -/
def scanWith (scrutiny : Scrutiny) :
    Nat → List Bracket → Expectation → Symbols → Except Fault Symbols
  | 0, _, _, _ => .error .malformed
  | fuel + 1, brackets, .value, text =>
      let enter (bracket : Bracket) (rest : Symbols) : Except Fault Symbols :=
        if scrutiny.allows brackets then
          scanWith scrutiny fuel (bracket :: brackets) .firstItem rest
        else .error .malformed
      match skipSpace text with
      | some '[' :: rest => enter .array rest
      | some '\x7b' :: rest => enter .object rest
      | text => do
        scanWith scrutiny fuel brackets .continuation
          (← scanScalar scrutiny text)
  | _ + 1, [], .firstItem, _ => .error .malformed
  | fuel + 1, bracket :: brackets, .firstItem, text =>
      match skipSpace text with
      | some c :: rest =>
          if c = bracket.closing then
            scanWith scrutiny fuel brackets .continuation rest
          else
            match bracket with
            | .array =>
                scanWith scrutiny fuel (bracket :: brackets) .value
                  (some c :: rest)
            | .object =>
                scanWith scrutiny fuel (bracket :: brackets) .key
                  (some c :: rest)
      | _ => .error .malformed
  | fuel + 1, brackets, .key, text => do
      scanWith scrutiny fuel brackets .value (← scanKey scrutiny text)
  | _ + 1, [], .continuation, text => .ok text
  | fuel + 1, bracket :: brackets, .continuation, text =>
      match skipSpace text with
      | some c :: rest =>
          if c = bracket.closing then
            scanWith scrutiny fuel brackets .continuation rest
          else if c = ',' then
            match bracket with
            | .array => scanWith scrutiny fuel (bracket :: brackets) .value rest
            | .object => scanWith scrutiny fuel (bracket :: brackets) .key rest
          else .error .malformed
      | _ => .error .malformed

/-- Step over one value. -/
def scan (scrutiny : Scrutiny) (text : Symbols) : Except Fault Symbols :=
  scanWith scrutiny (2 * text.length + 2) [] .value text

/-- Step over one value, by its grammar only. -/
def skipValue (text : Symbols) : Except Fault Symbols := scan .lenient text

end Json
end NameService
