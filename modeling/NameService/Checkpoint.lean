import NameService.FilePath
import NameService.ServiceError
import NameService.Text.Blank
import NameService.Text.Utf8

/-!
# Checkpoint bookkeeping

The two small files that remember checkpoints: the Primary's holds a transaction
id in decimal, the Backup's one line of a time, a transaction id and the name of
an image file. Files are replaced as a whole, by way of a scratch file.
-/

namespace NameService

namespace Disk

/-- The scratch file of a file that is replaced. -/
def scratch (location : Location) : Location := withExtension "tmp" location

/-- Replace a file as a whole. -/
def replace (disk : Disk) (location : Location) (content : Bytes) :
    Disk × Except FileError Unit :=
  disk.performAll (replaceSteps (scratch location) location content)

/-- The characters of a text file. -/
def readChars (disk : Disk) (location : Location) :
    Except FileError (List Char) :=
  match disk.read location with
  | .error error => .error error
  | .ok content =>
      match Text.ofUtf8? content with
      | some text => .ok text
      | none => .error .invalidData

end Disk

namespace Checkpoint

/-- The file of the Primary's checkpoint id. -/
structure Store where
  /-- Where the file stands. -/
  location : Location
  /-- The path of the file, as errors show it. -/
  path : String
  deriving Repr

namespace Store

/-- The persisted transaction id; zero if there is no file. -/
def load (store : Store) (disk : Disk) : Except ServiceError Nat :=
  if disk.has store.location then
    match disk.readChars store.location with
    | .error error => .error (.file error)
    | .ok text =>
        (Text.readDecimal (Text.trim text)).mapError fun cause =>
          .input (.badCheckpointTxid store.path cause)
  else .ok 0

/-- Persist a transaction id. -/
def save (store : Store) (disk : Disk) (txid : Nat) :
    Disk × Except FileError Unit :=
  disk.replace store.location (Text.utf8 (Text.decimal txid))

end Store

/-- The Backup's last checkpoint. -/
structure Info where
  /-- When it was taken, in milliseconds since the epoch. -/
  timestamp : Nat
  /-- The transaction id it covers. -/
  txid : Nat
  /-- The name of its image file. -/
  imageFile : String
  deriving DecidableEq, Repr

namespace Info

/-- The characters of the line of a checkpoint. -/
def encode (info : Info) : List Char :=
  Text.decimal info.timestamp ++ '_' ::
    (Text.decimal info.txid ++ '_' :: info.imageFile.toList)

/-- The line of a checkpoint. -/
def line (info : Info) : String := String.ofList info.encode

/-- The three fields of a line, cut at its first two underscores. -/
def fields? (text : List Char) :
    Option (List Char × List Char × List Char) := do
  let (timestamp, rest) ← Text.splitOnce (· == '_') text
  let (txid, imageFile) ← Text.splitOnce (· == '_') rest
  pure (timestamp, txid, imageFile)

/-- The checkpoint on a line, between blank characters. -/
def decode (line : List Char) : Except InputError Info :=
  let shown := String.ofList line
  match fields? (Text.trim line) with
  | none => .error (.malformedInfo shown)
  | some (timestamp, txid, imageFile) =>
      if imageFile.isEmpty then .error (.infoWithoutImage shown)
      else do
        let timestamp ← (Text.readDecimal timestamp).mapError
          (.infoNumber shown)
        let txid ← (Text.readDecimal txid).mapError (.infoNumber shown)
        pure ⟨timestamp, txid, String.ofList imageFile⟩

/-- The persisted checkpoint, if there is a file. -/
def load (disk : Disk) (location : Location) :
    Except ServiceError (Option Info) :=
  if disk.has location then
    match disk.readChars location with
    | .error error => .error (.file error)
    | .ok text =>
        match decode text with
        | .ok info => .ok (some info)
        | .error cause => .error (.input cause)
  else .ok none

/-- Persist a checkpoint. -/
def save (info : Info) (disk : Disk) (location : Location) :
    Disk × Except FileError Unit :=
  disk.replace location (Text.utf8 info.encode)

end Info
end Checkpoint
end NameService
