import NameService.Json.Scan

/-!
# Reading JSON of a given shape

Readers for scalars, lists and structures. A reader stops at the first fault
from the left and says of which kind it is: text that is not JSON, or JSON of
another shape. A structure may stand as an object, in which unknown members are
skipped and known ones may not repeat, or as an array of its members in order.
-/

namespace NameService
namespace Json

/-- The fault of a value that is not of the kind asked for. A scalar is read
first, and may turn out not to be JSON at all. -/
def refuse {α : Type} (text : Symbols) : Except Fault α := do
  match skipSpace text with
  | some '[' :: _ => .error .mismatch
  | some '\x7b' :: _ => .error .mismatch
  | text =>
      let _ ← scanScalar (.strict 0) text
      .error .mismatch

/-- Read a string. -/
def readText : Reader String := fun text =>
  match skipSpace text with
  | some '"' :: rest => (readString rest).map fun (content, rest) =>
      (String.ofList content, rest)
  | text => refuse text

/-- Read a word: an integer literal without sign, point or exponent. -/
def readWord : Reader Nat := fun text =>
  match skipSpace text with
  | some c :: rest =>
      if c = '-' ∨ c.isDigit then do
        let (numeral, rest) ← readNumeral (some c :: rest)
        match numeral.word? with
        | some value => .ok (value, rest)
        | none => .error .mismatch
      else refuse (some c :: rest)
  | text => refuse text

/-- Read a truth value. -/
def readFlag : Reader Bool := fun text =>
  match skipSpace text with
  | some 't' :: rest => (expect ['r', 'u', 'e'] rest).map fun rest =>
      (true, rest)
  | some 'f' :: rest => (expect ['a', 'l', 's', 'e'] rest).map fun rest =>
      (false, rest)
  | text => refuse text

/-- Read a value that may be `null`. -/
def readOptional {α : Type} (reader : Reader α) :
    Reader (Option α) := fun text =>
  match skipSpace text with
  | some 'n' :: rest => (expect ['u', 'l', 'l'] rest).map fun rest =>
      (none, rest)
  | text => (reader text).map fun (value, rest) => (some value, rest)

/-- Step to the next item of an array: `none` at its end, which is left
standing. -/
def nextItem (first : Bool) (text : Symbols) : Except Fault (Option Symbols) :=
  match skipSpace text with
  | some ']' :: _ => .ok none
  | some ',' :: rest =>
      if first then .ok (some (some ',' :: rest))
      else
        match skipSpace rest with
        | some ']' :: _ => .error .malformed
        | [] => .error .malformed
        | rest => .ok (some rest)
  | [] => .error .malformed
  | text => if first then .ok (some text) else .error .malformed

/-- Read items up to the end of an array, which is left standing. -/
def readItemsWith {α : Type} (reader : Reader α) :
    Nat → Bool → Symbols → Except Fault (List α × Symbols)
  | 0, _, _ => .error .malformed
  | fuel + 1, first, text => do
      match ← nextItem first text with
      | none => .ok ([], text)
      | some text =>
          let (item, rest) ← reader text
          let (items, rest) ← readItemsWith reader fuel false rest
          .ok (item :: items, rest)

/-- Step over the end of an array. -/
def closeArray (text : Symbols) : Except Fault Symbols :=
  match skipSpace text with
  | some ']' :: rest => .ok rest
  | _ => .error .malformed

/-- Read an array of values of one kind. -/
def readList {α : Type} (reader : Reader α) : Reader (List α) := fun text =>
  match skipSpace text with
  | some '[' :: rest => do
      let (items, rest) ← readItemsWith reader (rest.length + 1) true rest
      .ok (items, ← closeArray rest)
  | text => refuse text

/-- Step to the next key of an object, behind its opening quote: `none` at its
end, which is left standing. -/
def nextKey (first : Bool) (text : Symbols) : Except Fault (Option Symbols) :=
  match skipSpace text with
  | some '\x7d' :: _ => .ok none
  | some ',' :: rest =>
      if first then .error .malformed
      else
        match skipSpace rest with
        | some '"' :: rest => .ok (some rest)
        | _ => .error .malformed
  | some '"' :: rest => if first then .ok (some rest) else .error .malformed
  | _ => .error .malformed

/-- Step over the colon behind a key. -/
def skipColon (text : Symbols) : Except Fault Symbols :=
  match skipSpace text with
  | some ':' :: rest => .ok rest
  | _ => .error .malformed

/-- Read the members of an object up to its end, which is left standing. A
member changes the state, and is given the text behind its key. -/
def readMembersWith
    {σ : Type}
    (member : σ → String → Symbols → Except Fault (σ × Symbols)) :
    Nat → Bool → σ → Symbols → Except Fault (σ × Symbols)
  | 0, _, _, _ => .error .malformed
  | fuel + 1, first, state, text => do
      match ← nextKey first text with
      | none => .ok (state, text)
      | some text =>
          let (key, rest) ← readString text
          let (state, rest) ← member state (String.ofList key) rest
          readMembersWith member fuel false state rest

/-- Read the members of an object after its opening brace, up to its end. -/
def readMembers
    {σ : Type}
    (member : σ → String → Symbols → Except Fault (σ × Symbols))
    (state : σ) (text : Symbols) : Except Fault (σ × Symbols) :=
  readMembersWith member (text.length + 1) true state text

/-- Step over the end of an object. -/
def closeObject (text : Symbols) : Except Fault Symbols :=
  match skipSpace text with
  | some '\x7d' :: rest => .ok rest
  | _ => .error .malformed

/-- A member of a structure that is being read into a draft. -/
structure Field (σ : Type) where
  /-- The key in the object form. -/
  name : String
  /-- Whether the draft has this member already. -/
  present : σ → Bool
  /-- Read the member into the draft. -/
  read : σ → Reader σ

/-- Read one member of the object form: an unknown one is skipped, a repeated
one refused. -/
def readMember
    {σ : Type}
    (fields : List (Field σ))
    (state : σ)
    (key : String)
    (text : Symbols) :
    Except Fault (σ × Symbols) :=
  match fields.find? fun field => field.name == key with
  | none => do
      let rest ← skipValue (← skipColon text)
      .ok (state, rest)
  | some field =>
      if field.present state then .error .mismatch
      else do field.read state (← skipColon text)

/-- Read the members of the array form in order, up to the end of the array or
the last member. -/
def readPositions {σ : Type} :
    List (Field σ) → Bool → σ → Symbols → Except Fault (σ × Symbols)
  | [], _, state, text => .ok (state, text)
  | field :: fields, first, state, text => do
      match ← nextItem first text with
      | none => .ok (state, text)
      | some text =>
          let (state, rest) ← field.read state text
          readPositions fields false state rest

/-- Read a structure from either form. `finish` refuses a draft that lacks a
member. -/
def readStructure
    {σ α : Type}
    (fields : List (Field σ))
    (draft : σ)
    (finish : σ → Option α) :
    Reader α := fun text =>
  let close (state : σ) (rest : Except Fault Symbols) :
    Except Fault (α × Symbols) :=
    match finish state with
    | none => .error .mismatch
    | some value => rest.map fun rest => (value, rest)
  match skipSpace text with
  | some '\x7b' :: rest => do
      let (state, rest) ← readMembers (readMember fields) draft rest
      close state (closeObject rest)
  | some '[' :: rest => do
      let (state, rest) ← readPositions fields true draft rest
      close state (closeArray rest)
  | text => refuse text

/-- Read a text that holds one value and nothing else. -/
def readDocument {α : Type} (reader : Reader α) (text : Symbols) :
    Except Fault α := do
  let (value, rest) ← reader text
  match skipSpace rest with
  | [] => .ok value
  | _ => .error .malformed

end Json
end NameService
