import NameService.Log.Segment
import NameService.Outcome

/-!
# The edit log

A write-ahead log with two buffers. Records are appended to the active buffer.
Rotation moves them into the sealing buffer, and a flush writes that buffer to a
segment file. Until then the sealed records stay buffered, so a flush that
fails can be tried again.
-/

namespace NameService

/-- The edit log of a directory. -/
structure Log where
  /-- The directory of the segment files. -/
  directory : Location
  /-- How many bytes the active buffer holds when it is due for rotation. -/
  segmentSize : Nat
  /-- The records appended since the last rotation. -/
  active : List Record
  /-- The highest transaction id ever appended. -/
  lastTxid : Nat
  /-- The records that wait to be flushed. -/
  sealing : List Record
  /-- The spans of the segments, in the order in which they were written. -/
  spans : List Span
  /-- The last transaction id that is covered by a segment or an image. -/
  flushedTxid : Nat
  deriving Repr

namespace Log

/-- The transaction id of the last record of a buffer. -/
def maxTxid? (buffer : List Record) : Option Nat :=
  buffer.getLast?.map Record.txid

/-- The transaction id of the first record of a buffer. -/
def firstTxid? (buffer : List Record) : Option Nat :=
  buffer.head?.map Record.txid

/-- The end of the last span. -/
def lastCovered (spans : List Span) : Nat :=
  (spans.getLast?.map Span.last).getD 0

/-- A log over segments that exist already. -/
def ofSpans (directory : Location) (segmentSize : Nat) (spans : List Span) :
    Log :=
  ⟨directory, segmentSize, [], lastCovered spans, [], spans, lastCovered spans⟩

/-- Open the log of a directory, which is made if it is missing. -/
def openAt (disk : Disk) (directory : Location) (segmentSize : Nat) :
    Disk × Except LogError Log :=
  match disk.makeDirectories directory with
  | (disk, .error error) => (disk, .error (.file error))
  | (disk, .ok ()) =>
      (disk, (Segment.list disk directory).map (ofSpans directory segmentSize))

/-- Append a mutation under the next transaction id. -/
def append (log : Log) (operation : Operation) : Log × Record :=
  let record : Record := ⟨Word.next log.lastTxid, operation⟩
  ({ log with active := log.active ++ [record], lastTxid := record.txid },
    record)

/-- Append a record that carries its transaction id, which has to be the next
one. -/
def appendRecord (log : Log) (record : Record) : Log × Except LogError Unit :=
  if record.txid = Word.next log.lastTxid then
    ({ log with active := log.active ++ [record], lastTxid := record.txid },
      .ok ())
  else (log, .error (.outOfOrder (Word.next log.lastTxid) record.txid))

/-- Move an empty log forward without records, after an image that covers more
than the segments do. -/
def advanceTo (log : Log) (txid : Nat) : Log :=
  if txid ≤ log.lastTxid then log
  else if log.sealing.isEmpty && log.active.isEmpty then
    { log with lastTxid := txid, flushedTxid := max log.flushedTxid txid }
  else log

/-- Whether the active buffer is due for rotation. -/
def shouldRotate (log : Log) : Bool :=
  log.segmentSize ≤ (Segment.bytes log.active).length

/-- Seal the active buffer, unless sealed records still wait to be flushed. -/
def rotate (log : Log) : Log × Except LogError Unit :=
  if log.sealing.isEmpty then
    ({ log with sealing := log.active, active := [] }, .ok ())
  else (log, .error .flushPending)

/-- The file in which the segment of a span is written before it is moved to its
place. -/
def scratchLocation (directory : Location) (span : Span) : Location :=
  directory ++ [span.fileName ++ ".tmp"]

/-- The steps that write a segment. -/
def segmentSteps (directory : Location) (span : Span) (content : Bytes) :
    List Disk.Step :=
  Disk.replaceSteps (scratchLocation directory span)
    (Segment.location directory span) content

/-- Write the sealing buffer to a segment, if it holds any record. -/
def flush (log : Log) (disk : Disk) : Outcome Log LogError (Option Span) :=
  match maxTxid? log.sealing with
  | none => ⟨disk, log, .ok none⟩
  | some last =>
      let span : Span := ⟨Word.next log.flushedTxid, last⟩
      match disk.performAll
        (segmentSteps log.directory span (Segment.bytes log.sealing)) with
      | (disk, .error error) => ⟨disk, log, .error (.file error)⟩
      | (disk, .ok ()) =>
          ⟨disk,
            { log with
              sealing := [], spans := log.spans ++ [span],
              flushedTxid := last },
            .ok (some span)⟩

/-- Flush everything buffered. The answer is the span of the active buffer. -/
def forceSync (log : Log) (disk : Disk) : Outcome Log LogError (Option Span) :=
  let flushed := log.flush disk
  match flushed.answer with
  | .error error => ⟨flushed.disk, flushed.state, .error error⟩
  | .ok _ =>
      match flushed.state.rotate with
      | (log, .error error) => ⟨flushed.disk, log, .error error⟩
      | (log, .ok ()) => log.flush flushed.disk

/-- Rotate and flush. Records sealed earlier are flushed instead of a
rotation. -/
def roll (log : Log) (disk : Disk) : Outcome Log LogError (Option Span) :=
  log.rotate.1.flush disk

/-- Every record not in a segment: the sealed ones, then the active ones. -/
def buffered (log : Log) : List Record := log.sealing ++ log.active

/-- The records of the segment of a span. -/
def readSegment (log : Log) (disk : Disk) (span : Span) :
    Except LogError (List Record) :=
  Segment.read disk log.directory span

/-- Delete a segment file that may be missing already. -/
def removeSegment (disk : Disk) (directory : Location) (span : Span) :
    Disk × Except LogError Unit :=
  match disk.perform (.remove (Segment.location directory span)) with
  | (disk, .ok ()) => (disk, .ok ())
  | (disk, .error .notFound) => (disk, .ok ())
  | (disk, .error error) => (disk, .error (.file error))

/-- Delete the segments at the front of a list that end at or below a
transaction id. The answer is the list that is left and how many are gone. -/
def purgeSpans (disk : Disk) (directory : Location) (txid : Nat) :
    List Span → Disk × List Span × Nat × Except LogError Unit
  | [] => (disk, [], 0, .ok ())
  | span :: rest =>
      if txid < span.last then (disk, span :: rest, 0, .ok ())
      else
        match removeSegment disk directory span with
        | (disk, .error error) => (disk, span :: rest, 0, .error error)
        | (disk, .ok ()) =>
            let (disk, left, count, answer) :=
              purgeSpans disk directory txid rest
            (disk, left, count + 1, answer)

/-- Delete the segments that end at or below a transaction id. The answer is how
many were deleted. -/
def purgeThrough (log : Log) (disk : Disk) (txid : Nat) :
    Outcome Log LogError Nat :=
  let (disk, left, count, answer) :=
    purgeSpans disk log.directory txid log.spans
  ⟨disk, { log with spans := left }, answer.map fun _ => count⟩

/-- One wake-up of the background flusher: roll if the active buffer is due, and
leave a failure to the next wake-up. -/
def flusherTick (log : Log) (disk : Disk) : Disk × Log :=
  if log.shouldRotate then
    let rolled := log.roll disk
    (rolled.disk, rolled.state)
  else (disk, log)

/-- So many wake-ups of the background flusher. -/
def flusherTicks (log : Log) (disk : Disk) : Nat → Disk × Log
  | 0 => (disk, log)
  | count + 1 =>
      let (disk, log) := log.flusherTick disk
      log.flusherTicks disk count

end Log
end NameService
