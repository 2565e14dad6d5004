import NameService.Log.Segment

/-!
# Buffers

A buffer holds the text of a segment as it grows, and the records of that text
beside it. The text follows from the records, so a log keeps these alone.
-/

namespace NameService
namespace Segment

/-- Records and their text as it will stand in a segment. -/
structure Buffer where
  bytes : Bytes
  records : List Record
  deriving Repr

namespace Buffer

/-- A buffer without records. -/
def empty : Buffer := ⟨[], []⟩

/-- Append one record, its line and the separator behind it. -/
def write (buffer : Buffer) (record : Record) : Buffer :=
  ⟨buffer.bytes ++ Text.utf8 (record.line.toList ++ [separator]),
    buffer.records ++ [record]⟩

/-- The buffer of records that are written one by one. -/
def ofRecords (records : List Record) : Buffer := records.foldl write empty

theorem foldl_write (buffer : Buffer) (records : List Record) :
    records.foldl write buffer =
      ⟨buffer.bytes ++ Segment.bytes records, buffer.records ++ records⟩ := by
  induction records generalizing buffer with
  | nil => simp
  | cons record records hypothesis =>
      have line : Segment.bytes (record :: records) =
          Text.utf8 (record.line.toList ++ [separator]) ++
            Segment.bytes records := by
        simp [Segment.bytes, chars, Record.line]
      rw [List.foldl_cons, hypothesis, line, write, List.append_assoc,
        List.append_assoc, List.singleton_append]

/-- A buffer holds the bytes of the records that were written to it. -/
@[simp] theorem ofRecords_eq (records : List Record) :
    ofRecords records = ⟨Segment.bytes records, records⟩ := by
  simp [ofRecords, foldl_write, empty]

end Buffer
end Segment
end NameService
