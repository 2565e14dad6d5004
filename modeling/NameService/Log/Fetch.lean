import NameService.Log

/-!
# Fetching edits

Serves the records behind a transaction id: from the segment cached last, from
the segment that covers the next id, or from the buffers. Every answer is a run
of consecutive ids that starts right behind the one asked about.
-/

namespace NameService

/-- A log and its disk at one moment. -/
structure Log.Moment where
  log : Log
  disk : Disk

/-- A server of records with a cache of one segment. -/
structure Fetcher where
  /-- How many records an answer has at most, at least one. -/
  batchSize : Nat
  /-- The segment read last. -/
  cache : Option (Span × List Record)
  deriving Repr

namespace Fetcher

/-- A fetcher with an empty cache. A batch has room for one record at least. -/
def new (batchSize : Nat) : Fetcher := ⟨max batchSize 1, none⟩

/-- The records at the head of a list that carry consecutive transaction ids
from one on. -/
def run : Nat → List Record → List Record
  | _, [] => []
  | txid, record :: rest => if record.txid = txid then
    record :: run (Word.next txid) rest else []

/-- The consecutive records from a transaction id on, at most so many. -/
def takeBatch (records : List Record) (txid limit : Nat) : List Record :=
  (run txid (records.dropWhile fun record => record.txid != txid)).take limit

/-- The records of the segment that covers a transaction id, by way of the
cache. -/
def segmentRecords (fetcher : Fetcher) (moment : Log.Moment) (txid : Nat) :
    Fetcher × Except LogError (Option (List Record)) :=
  let load : Fetcher × Except LogError (Option (List Record)) :=
    match moment.log.spans.find? fun span => span.covers txid with
    | none => (fetcher, .ok none)
    | some span =>
        match moment.log.readSegment moment.disk span with
        | .error error => (fetcher, .error error)
        | .ok records =>
            ({ fetcher with cache := some (span, records) }, .ok (some records))
  match fetcher.cache with
  | some (span, records) => if span.covers txid then
    (fetcher, .ok (some records)) else load
  | none => load

/-- Look up a segment again after a batch came out empty, in case a flush moved
the records there. -/
def fetchAgain (fetcher : Fetcher) (counted second : Log.Moment) (txid : Nat)
    (batch : List Record) : Fetcher × Except LogError (List Record) :=
  if batch.isEmpty && txid ≤ counted.log.flushedTxid then
    match fetcher.segmentRecords second txid with
    | (fetcher, .error error) => (fetcher, .error error)
    | (fetcher, .ok none) => (fetcher, .ok batch)
    | (fetcher, .ok (some records)) =>
        (fetcher, .ok (takeBatch records txid fetcher.batchSize))
  else (fetcher, .ok batch)

/-- Fetch from a transaction id on, with the log seen at four moments: at the
look-up of a segment, at the look into the buffers, when the flushed id is read,
and at the second look-up of a segment. -/
def fetchAcross
    (fetcher : Fetcher)
    (first buffers counted second : Log.Moment)
    (txid : Nat) :
    Fetcher × Except LogError (List Record) :=
  match fetcher.segmentRecords first txid with
  | (fetcher, .error error) => (fetcher, .error error)
  | (fetcher, .ok found) =>
      fetcher.fetchAgain counted second txid
        (takeBatch (found.getD buffers.log.buffered) txid fetcher.batchSize)

/-- The records behind a transaction id, at most one batch. -/
def fetch (fetcher : Fetcher) (disk : Disk) (log : Log) (after : Nat) :
    Fetcher × Except LogError (List Record) :=
  if Word.max ≤ after then (fetcher, .ok [])
  else
    let moment : Log.Moment := ⟨log, disk⟩
    fetcher.fetchAcross moment moment moment moment (after + 1)

end Fetcher
end NameService
