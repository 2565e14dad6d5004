import NameService.Image
import NameService.Json.Read
import NameService.Json.Write
import NameService.Text.Utf8

/-!
# The text of images

An image is one JSON object of its transaction id and its entries. It is read
from an object or from the array of its members; what is unknown is stepped
over.
-/

namespace NameService

namespace Kind

/-- The name of a kind in images. -/
def keyword : Kind → String
  | .directory => "directory"
  | .file => "file"

/-- The kind of a name in images. -/
def ofKeyword? (keyword : String) : Option Kind :=
  if keyword = "directory" then some .directory
  else if keyword = "file" then some .file
  else none

@[simp] theorem ofKeyword?_keyword (kind : Kind) :
    ofKeyword? kind.keyword = some kind := by
  cases kind <;> simp [ofKeyword?, keyword]

/-- The kind of a name that is read. -/
def ofKeyword (keyword : String) : Except Json.Fault Kind :=
  match ofKeyword? keyword with
  | some kind => .ok kind
  | none => .error .mismatch

/-- Read a kind: its name, or an object of its name and `null`. -/
def read : Json.Reader Kind := fun text =>
  match Json.skipSpace text with
  | some '"' :: rest => do
      let (keyword, rest) ← Json.readString rest
      pure (← ofKeyword (String.ofList keyword), rest)
  | some '\x7b' :: rest => do
      let (keyword, rest) ← Json.readText rest
      let kind ← ofKeyword keyword
      let rest ← Json.skipColon rest
      let rest ← Json.expect ['n', 'u', 'l', 'l'] (Json.skipSpace rest)
      pure (kind, ← Json.closeObject rest)
  | _ => .error .malformed

end Kind

namespace Image

namespace Entry

/-- The characters of an entry. -/
def encode (entry : Entry) : List Char :=
  Json.object
    ((entry.parent.map fun parent =>
      Json.member "parent" (Json.number parent)).toList ++
      [Json.member "name" (Json.string entry.name),
        Json.member "kind" (Json.string entry.kind.keyword)])

/-- An entry that is being read. -/
structure Draft where
  /-- The parent, once it is read; it may be read as absent. -/
  parent : Option (Option Nat)
  /-- The name, once it is read. -/
  name : Option String
  /-- The kind, once it is read. -/
  kind : Option Kind

/-- The entry of a draft; the parent may be missing. -/
def Draft.finish (draft : Draft) : Option Entry := do
  pure ⟨draft.parent.getD none, ← draft.name, ← draft.kind⟩

/-- The members of an entry in order. -/
def fields : List (Json.Field Draft) :=
  [⟨"parent", fun draft => draft.parent.isSome, fun draft text =>
      (Json.readOptional Json.readWord text).map fun (parent, rest) =>
        ({ draft with parent := some parent }, rest)⟩,
    ⟨"name", fun draft => draft.name.isSome, fun draft text =>
      (Json.readText text).map fun (name, rest) =>
        ({ draft with name := some name }, rest)⟩,
    ⟨"kind", fun draft => draft.kind.isSome, fun draft text =>
      (Kind.read text).map fun (kind, rest) =>
        ({ draft with kind := some kind }, rest)⟩]

/-- Read an entry. -/
def read : Json.Reader Entry :=
  Json.readStructure fields ⟨none, none, none⟩ Draft.finish

end Entry

/-- The characters of an image of entries. -/
def encodeEntries (txid : Nat) (entries : List Entry) : List Char :=
  Json.object
    [Json.member "txid" (Json.number txid),
      Json.member "entries" (Json.array (entries.map Entry.encode))]

/-- The bytes of the image of a tree. -/
def encode (txid : Nat) (tree : Tree) : List UInt8 :=
  Text.utf8 (encodeEntries txid (entries tree))

/-- An image that is being read. -/
structure Draft where
  /-- The transaction id, once it is read. -/
  txid : Option Nat
  /-- The entries, once they are read. -/
  entries : Option (List Entry)

/-- The transaction id and the entries of a draft that has both. -/
def Draft.finish (draft : Draft) : Option (Nat × List Entry) := do
  pure (← draft.txid, ← draft.entries)

/-- The members of an image in order. -/
def fields : List (Json.Field Draft) :=
  [⟨"txid", fun draft => draft.txid.isSome, fun draft text =>
      (Json.readWord text).map fun (txid, rest) =>
        ({ draft with txid := some txid }, rest)⟩,
    ⟨"entries", fun draft => draft.entries.isSome, fun draft text =>
      (Json.readList Entry.read text).map fun (entries, rest) =>
        ({ draft with entries := some entries }, rest)⟩]

/-- Read the transaction id and the entries of an image. -/
def readEntries : Json.Reader (Nat × List Entry) :=
  Json.readStructure fields ⟨none, none⟩ Draft.finish

/-- The transaction id and the entries that bytes hold. -/
def decodeEntries (bytes : List UInt8) : Except TreeError (Nat × List Entry) :=
  (Json.readDocument readEntries (Text.decode bytes)).mapError fun _ =>
    .codec .json

/-- The image that bytes hold. -/
def decode (bytes : List UInt8) : Except TreeError Image := do
  let (txid, entries) ← decodeEntries bytes
  pure ⟨txid, ← assemble entries⟩

end Image
end NameService
