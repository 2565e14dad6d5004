import NameService.Digest
import NameService.Recovery
import NameService.Settings

/-!
# Offline inspection

What a data directory holds, found out without changing it: what its segments
are worth, what an image covers, what a restart would rebuild, and which
checkpoints are remembered.
-/

namespace NameService

/-- Why an inspection fails. -/
inductive InspectionError
  | service (cause : ServiceError)
  | log (cause : LogError)
  | tree (cause : TreeError)
  /-- The segments of a directory cannot be listed; its path. -/
  | listing (path : String) (cause : LogError)
  /-- A file cannot be read; its path. -/
  | reading (path : String) (cause : FileError)
  /-- A file is not an image; its path. -/
  | decoding (path : String) (cause : TreeError)
  deriving DecidableEq, Repr

namespace InspectionError

/-- The wording of an inspection error. -/
def message : InspectionError → String
  | .service cause => cause.message
  | .log cause => cause.message
  | .tree cause => cause.message
  | .listing path cause =>
      "listing " ++ Text.quoted path ++ ": " ++ cause.message
  | .reading path cause =>
      "reading " ++ Text.quoted path ++ ": " ++
        (ServiceError.file cause).message
  | .decoding path cause =>
      "decoding " ++ Text.quoted path ++ ": " ++ cause.message

end InspectionError

namespace Inspection

/-! ## Segments -/

/-- What a segment is worth. -/
inductive Verdict
  /-- The segment starts right behind the one before and holds its span. -/
  | sound
  /-- The segment does not start right behind the one before. -/
  | gapBefore
  /-- The segment does not hold exactly the transaction ids of its span. -/
  | corrupt
  deriving DecidableEq, Repr

/-- Whether records carry consecutive transaction ids from a first one on. -/
def contiguous (first : Nat) (records : List Record) : Bool :=
  (records.zipIdx first).all fun (record, txid) => record.txid == txid

/-- Whether there are as many records as a span has transaction ids. -/
def complete (span : Span) (records : List Record) : Bool :=
  records.length == span.last - span.first + 1

/-- What a segment is worth that should start at a transaction id. -/
def judge (expected : Nat) (span : Span) (records : List Record) : Verdict :=
  if span.first ≠ expected then .gapBefore
  else if contiguous span.first records && complete span records then .sound
  else .corrupt

/-- A segment under inspection. -/
structure SegmentRow where
  span : Span
  /-- How many records its file holds. -/
  records : Nat
  verdict : Verdict
  deriving DecidableEq, Repr

/-- Judge segments in order. The first is to start at a transaction id, and each
other one behind the one before. -/
def judgeAll (disk : Disk) (directory : Location) :
    Nat → List Span → Except LogError (List SegmentRow)
  | _, [] => .ok []
  | expected, span :: rest =>
      match Segment.read disk directory span with
      | .error cause => .error cause
      | .ok records =>
          (judgeAll disk directory (span.last + 1) rest).map
            (⟨span, records.length, judge expected span records⟩ :: ·)

@[simp] theorem judgeAll_nil
    (disk : Disk)
    (directory : Location)
    (expected : Nat) :
    judgeAll disk directory expected [] = .ok [] := rfl

/-- Judge every segment of a data directory. -/
def segments (settings : Settings) (disk : Disk) :
    Except InspectionError (List SegmentRow) :=
  match Segment.list disk settings.editsLocation with
  | .error cause => .error (.listing (settings.path Settings.editsName) cause)
  | .ok spans =>
      (judgeAll disk settings.editsLocation
        ((spans.head?.map Span.first).getD 0) spans).mapError .log

/-! ## Images -/

/-- An image file under inspection. -/
structure ImageFacts where
  /-- How many bytes the file has. -/
  size : Nat
  txid : Nat
  tree : Tree
  deriving Repr

/-- Inspect the image file at a path. -/
def image (disk : Disk) (location : Location) (path : String) :
    Except InspectionError ImageFacts :=
  match disk.read location with
  | .error cause => .error (.reading path cause)
  | .ok content =>
      match Image.decode content with
      | .error cause => .error (.decoding path cause)
      | .ok image =>
          match Image.namespaceRoot image.root with
          | .error cause => .error (.tree cause)
          | .ok tree => .ok ⟨content.length, image.txid, tree⟩

/-! ## Rebuilding -/

/-- What a restart on a data directory would rebuild. -/
structure Rebuilt where
  /-- The transaction id of the image, if there is one. -/
  imageTxid : Option Nat
  checkpointTxid : Nat
  /-- The transaction id up to which nothing is replayed. -/
  floor : Nat
  /-- How many records are replayed. -/
  applied : Nat
  lastTxid : Nat
  tree : Tree
  deriving Repr

/-- Where the image is and which checkpoint is remembered. The Backup's
bookkeeping goes before the Primary's. -/
def bookkeeping (settings : Settings) (disk : Disk) :
    Except ServiceError (Location × Nat) :=
  match Checkpoint.Info.load disk settings.checkpointInfoLocation with
  | .error cause => .error cause
  | .ok (some info) => .ok (settings.resolve disk info.imageFile, info.txid)
  | .ok none =>
      (settings.checkpointStore.load disk).map fun txid =>
        (settings.imageLocation, txid)

/-- Rebuild a namespace from an image, if there is one, and the segments. -/
def rebuildFrom (settings : Settings) (disk : Disk) (checkpointTxid : Nat)
    (image : Option Image) : Except InspectionError Rebuilt :=
  let imageTxid := image.map Image.txid
  let floor := Recovery.replayFloor imageTxid checkpointTxid
  match Image.namespaceRoot ((image.map Image.root).getD Tree.root) with
  | .error cause => .error (.tree cause)
  | .ok root =>
      match Recovery.replay disk settings.editsLocation floor root with
      | (_, .error cause) => .error (.log cause)
      | (tree, .ok progress) =>
          .ok ⟨imageTxid, checkpointTxid, floor, progress.applied,
            max progress.lastTxid (imageTxid.getD 0), tree⟩

/-- Rebuild the namespace of a data directory as a restart would, for either
kind of node. -/
def rebuild (settings : Settings) (disk : Disk) :
    Except InspectionError Rebuilt :=
  match bookkeeping settings disk with
  | .error cause => .error (.service cause)
  | .ok (location, checkpointTxid) =>
      match Image.load disk location with
      | .error cause => .error (.service cause)
      | .ok image => rebuildFrom settings disk checkpointTxid image

/-! ## Checkpoints -/

/-- A remembered checkpoint. -/
inductive Bookmark
  /-- The Primary's, with whether its image is there. -/
  | primary (txid : Nat) (imagePresent : Bool)
  /-- The Backup's, with whether its image is there. -/
  | backup (info : Checkpoint.Info) (imagePresent : Bool)
  deriving DecidableEq, Repr

/-- The Primary's checkpoint, if it is remembered. -/
def primaryBookmark (settings : Settings) (disk : Disk) :
    Except ServiceError (List Bookmark) :=
  if disk.has settings.checkpointStore.location then
    (settings.checkpointStore.load disk).map fun txid =>
      [.primary txid (disk.has settings.imageLocation)]
  else .ok []

/-- The Backup's checkpoint, if it is remembered. -/
def backupBookmark (settings : Settings) (disk : Disk) :
    Except ServiceError (List Bookmark) :=
  (Checkpoint.Info.load disk settings.checkpointInfoLocation).map fun info =>
    match info with
    | none => []
    | some info =>
        [.backup info (disk.has (settings.resolve disk info.imageFile))]

/-- The checkpoints that a data directory remembers. -/
def checkpoints (settings : Settings) (disk : Disk) :
    Except InspectionError (List Bookmark) :=
  match primaryBookmark settings disk with
  | .error cause => .error (.service cause)
  | .ok primary =>
      match backupBookmark settings disk with
      | .error cause => .error (.service cause)
      | .ok backup => .ok (primary ++ backup)

end Inspection
end NameService
