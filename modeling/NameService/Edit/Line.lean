import NameService.Edit
import NameService.Json.Read
import NameService.Json.Write
import NameService.Text.Blank
import NameService.Tree.Error

/-!
# Record lines

The one-line JSON form of an edit record. It is written as an object of the
transaction id, the name of the mutation and the path. It is read from an object
alone; unknown members are read in full, so their strings, numbers and nesting
have to be sound.
-/

namespace NameService

namespace Operation

/-- The value of a member, as far as a record can use it. -/
inductive Scalar
  | text (content : String)
  | word (value : Nat)
  | other
  deriving DecidableEq, Repr

/-- The mutation of a tag, at a path. -/
def ofScalars? : Scalar → Scalar → Option Operation
  | .text keyword, .text path => ofKeyword? keyword path
  | .word ordinal, .text path => ofOrdinal? ordinal path
  | _, _ => none

end Operation

namespace Record

/-- How many containers may be open inside a record. -/
def nestingLimit : Nat := 126

/-- The characters of a record's line. -/
def encode (record : Record) : List Char :=
  Json.object
    [Json.member "txid" (Json.number record.txid),
      Json.member "op" (Json.string record.operation.keyword),
      Json.member "path" (Json.string record.operation.path)]

/-- The line of a record, without the separator behind it. -/
def line (record : Record) : String := String.ofList record.encode

/-- A record that is being read. -/
structure Draft where
  /-- The transaction id, once it is read. -/
  txid : Option Nat
  /-- The tag of the mutation, once it is read. -/
  tag : Option Operation.Scalar
  /-- The path, once it is read. -/
  path : Option Operation.Scalar

namespace Draft

/-- A record of which nothing is read. -/
def empty : Draft := ⟨none, none, none⟩

/-- The record of a draft that has all members. -/
def finish (draft : Draft) : Option Record := do
  let txid ← draft.txid
  let operation ← Operation.ofScalars? (← draft.tag) (← draft.path)
  pure ⟨txid, operation⟩

end Draft

/-- Read a value in full. -/
def readScalar : Json.Reader Operation.Scalar := fun text =>
  match Json.skipSpace text with
  | some '"' :: rest =>
      (Json.readString rest).map fun (content, rest) =>
        (.text (String.ofList content), rest)
  | some c :: rest =>
      if c = '-' ∨ c.isDigit then
        (Json.readNumeral (some c :: rest)).map fun (numeral, rest) =>
          match numeral.word? with
          | some value => (.word value, rest)
          | none => (.other, rest)
      else
        (Json.scan (.strict nestingLimit) (some c :: rest)).map fun rest =>
          (.other, rest)
  | _ => .error .malformed

/-- Read one member of a record. -/
def readMember (draft : Draft) (key : String) (text : Json.Symbols) :
    Except Json.Fault (Draft × Json.Symbols) := do
  let text ← Json.skipColon text
  if key = "txid" then
    if draft.txid.isSome then .error .mismatch
    let (txid, rest) ← Json.readWord text
    pure ({ draft with txid := some txid }, rest)
  else
    let (scalar, rest) ← readScalar text
    if key = "op" then
      if draft.tag.isSome then .error .mismatch
      pure ({ draft with tag := some scalar }, rest)
    else if key = "path" then
      if draft.path.isSome then .error .mismatch
      pure ({ draft with path := some scalar }, rest)
    else pure (draft, rest)

/-- Read a record. -/
def read : Json.Reader Record := fun text =>
  match Json.skipSpace text with
  | some '\x7b' :: rest => do
      let (draft, rest) ← Json.readMembers readMember .empty rest
      match draft.finish with
      | none => .error .mismatch
      | some record => pure (record, ← Json.closeObject rest)
  | text => Json.refuse text

/-- The record that a line holds between blank characters. -/
def decode (line : List Char) : Except TreeError Record :=
  (Json.readDocument read ((Text.trim line).map some)).mapError fun _ =>
    .codec .json

end Record
end NameService
