/-!
# UTF-8

Bytes are read as a list of positions, each a character or, where the bytes are
not well-formed UTF-8, `none`. ASCII bytes always stand for themselves, so a
text can be cut at ASCII delimiters first and checked piece by piece later.
-/

namespace NameService
namespace Text

/-- The UTF-8 bytes of a list of characters. -/
def utf8 (text : List Char) : List UInt8 := text.flatMap String.utf8EncodeChar

@[simp] theorem utf8_nil : utf8 [] = [] := rfl

@[simp] theorem utf8_cons (c : Char) (text : List Char) :
    utf8 (c :: text) = String.utf8EncodeChar c ++ utf8 text := rfl

@[simp] theorem utf8_append (left right : List Char) :
    utf8 (left ++ right) = utf8 left ++ utf8 right := by
  simp [utf8]

/-- An unfinished multi-byte sequence. -/
structure Partial where
  /-- How many continuation bytes are still to come. -/
  missing : Nat
  /-- The bits read so far. -/
  value : Nat
  /-- The least code point that needs a sequence of this length. -/
  least : Nat

namespace Partial

/-- The state after the first byte of a multi-byte sequence. -/
def start? (byte : UInt8) : Option Partial :=
  if 0xC2 ≤ byte ∧ byte ≤ 0xDF then some ⟨1, byte.toNat - 0xC0, 0x80⟩
  else if 0xE0 ≤ byte ∧ byte ≤ 0xEF then some ⟨2, byte.toNat - 0xE0, 0x800⟩
  else if 0xF0 ≤ byte ∧ byte ≤ 0xF4 then some ⟨3, byte.toNat - 0xF0, 0x10000⟩
  else none

/-- The character of a finished sequence, unless it is over-long, a surrogate
or beyond the last code point. -/
def finish? (value least : Nat) : Option Char :=
  if h : value.isValidChar ∧ least ≤ value then
    some (Char.ofNatAux value h.1) else none

end Partial

/-- The byte `byte` in a position where no sequence is unfinished. -/
def decodeHead (byte : UInt8) : Option Char ⊕ Partial :=
  if byte < 0x80 then .inl (some (Char.ofNat byte.toNat))
  else
    match Partial.start? byte with
    | some state => .inr state
    | none => .inl none

/-- Decode bytes after an unfinished sequence, if there is one. A sequence cut
short leaves one undecodable position behind. -/
def decodeFrom : Option Partial → List UInt8 → List (Option Char)
  | none, [] => []
  | some _, [] => [none]
  | none, byte :: rest =>
      match decodeHead byte with
      | .inl position => position :: decodeFrom none rest
      | .inr state => decodeFrom (some state) rest
  | some state, byte :: rest =>
      if 0x80 ≤ byte ∧ byte ≤ 0xBF then
        let value := state.value * 64 + (byte.toNat - 0x80)
        if state.missing = 1 then
          Partial.finish? value state.least :: decodeFrom none rest
        else decodeFrom (some ⟨state.missing - 1, value, state.least⟩) rest
      else
        match decodeHead byte with
        | .inl position => none :: position :: decodeFrom none rest
        | .inr next => none :: decodeFrom (some next) rest

/-- The characters of a byte sequence, with `none` where it is not UTF-8. -/
def decode (bytes : List UInt8) : List (Option Char) := decodeFrom none bytes

/-- The characters of a sequence of positions that are all decodable. -/
def characters? (positions : List (Option Char)) : Option (List Char) :=
  positions.mapM id

/-- The characters of a byte sequence that is UTF-8 throughout. -/
def ofUtf8? (bytes : List UInt8) : Option (List Char) :=
  characters? (decode bytes)

example : decode (utf8 "aé日😀".toList) = "aé日😀".toList.map some := by decide
example : ofUtf8? [0xED, 0xA0, 0x80] = none ∧ ofUtf8? [0xC0, 0x80] = none := by
  decide

end Text
end NameService
