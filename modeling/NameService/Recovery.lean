import NameService.Image.Codec
import NameService.Log
import NameService.ServiceError

/-!
# Recovery

A namespace is rebuilt from an image, if there is one, and the segments above
the replay floor. Records that do not apply are skipped, and no transaction id
is applied twice.
-/

namespace NameService

namespace Image

/-- The image in a file, if the file is there. -/
def load (disk : Disk) (location : Location) :
    Except ServiceError (Option Image) :=
  if disk.has location then
    match disk.read location with
    | .error error => .error (.file error)
    | .ok content =>
        match decode content with
        | .ok image => .ok (some image)
        | .error cause => .error (.tree cause)
  else .ok none

end Image

namespace Recovery

/-- The transaction id up to which nothing is replayed. A checkpoint without an
image suppresses nothing. -/
def replayFloor (imageTxid : Option Nat) (checkpointTxid : Nat) : Nat :=
  match imageTxid with
  | some imageTxid => min imageTxid checkpointTxid
  | none => 0

/-- How far a replay has come. -/
structure Progress where
  /-- How many records were applied. -/
  applied : Nat
  /-- The last transaction id applied, or the floor. -/
  lastTxid : Nat
  /-- How many segments were opened. -/
  segments : Nat
  deriving DecidableEq, Repr

/-- Apply a record unless its transaction id is at or below the last one. -/
def replayRecord (tree : Tree) (progress : Progress) (record : Record) :
    Tree × Progress :=
  if record.txid ≤ progress.lastTxid then (tree, progress)
  else
    (tree.absorb record.operation,
      { progress with
        applied := progress.applied + 1, lastTxid := record.txid })

/-- Apply the records of a segment, up to the first line that is not a
record. -/
def replayLines : Tree → Progress → List (Except LogError Record) →
    Tree × Except LogError Progress
  | tree, progress, [] => (tree, .ok progress)
  | tree, _, .error error :: _ => (tree, .error error)
  | tree, progress, .ok record :: rest =>
      let (tree, progress) := replayRecord tree progress record
      replayLines tree progress rest

/-- Apply the segments of spans in order, without those that end at or below the
floor. -/
def replaySpans (disk : Disk) (directory : Location) (floor : Nat) :
    Tree → Progress → List Span → Tree × Except LogError Progress
  | tree, progress, [] => (tree, .ok progress)
  | tree, progress, span :: rest =>
      if span.last ≤ floor then
        replaySpans disk directory floor tree progress rest
      else
        match disk.read (Segment.location directory span) with
        | .error error => (tree, .error (.file error))
        | .ok content =>
            match replayLines tree
              { progress with segments := progress.segments + 1 }
              (Segment.readLines content) with
            | (tree, .ok progress) =>
                replaySpans disk directory floor tree progress rest
            | (tree, .error error) => (tree, .error error)

/-- Apply the records above a floor from the segments of a directory. The tree
keeps what was applied before an error. -/
def replay (disk : Disk) (directory : Location) (floor : Nat) (tree : Tree) :
    Tree × Except LogError Progress :=
  match Segment.list disk directory with
  | .error error => (tree, .error error)
  | .ok spans => replaySpans disk directory floor tree ⟨0, floor, 0⟩ spans

end Recovery
end NameService
