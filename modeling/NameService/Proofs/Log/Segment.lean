import NameService.Log.Buffer
import NameService.Proofs.Edit.Line
import NameService.Proofs.Text.Split
import NameService.Proofs.Text.Utf8

/-!
# Segments read back

The bytes of records are read as the records, line by line and as a whole, if
their transaction ids are words.
-/

namespace NameService

namespace Segment

/-- The line of a record is not blank. -/
theorem blankLine_encode (record : Record) :
    blankLine (record.encode.map some) = false := by
  have brace : Text.isBlank '\x7b' = false := by decide
  simp [Record.encode, Json.object, blankLine, brace]

/-- The lines of records are their lines. -/
theorem lines_bytes (records : List Record) :
    lines (bytes records) = records.map fun record =>
      record.encode.map some := by
  rw [lines, bytes, Text.decode_utf8]
  induction records with
  | nil => rfl
  | cons record records hypothesis =>
      have whole : ∀ position ∈ record.encode.map some,
          (position == some separator) = false := by
        intro position present
        obtain ⟨c, inLine, rfl⟩ := List.mem_map.mp present
        have notBreak : c ≠ '\n' :=
          fun same => record.not_mem_encode (same ▸ inLine)
        simpa [separator] using notBreak
      have pieces := Text.split_append_cut whole (x := some separator) (by simp)
        ((chars records).map some)
      have starts : (chars (record :: records)).map some =
          record.encode.map some ++ some separator ::
            (chars records).map some := by
        simp [chars]
      rw [starts, pieces, List.filter_cons_of_pos (by simp [blankLine_encode]),
        hypothesis]
      rfl

/-- The lines of records are read as the records. -/
theorem readLines_bytes
    {records : List Record}
    (words : ∀ record ∈ records, record.txid ≤ Word.max) :
    readLines (bytes records) = records.map .ok := by
  rw [readLines, lines_bytes, List.map_map]
  refine List.map_congr_left fun record present => ?_
  simp only [Function.comp_apply, readLine, Text.characters?_map_some,
    Record.decode_encode (words record present)]
  rfl

/-- Answers without an error are collected. -/
@[simp] theorem collect_map_ok {ε α : Type} (values : List α) :
    collect (values.map (Except.ok (ε := ε))) = .ok values := by
  induction values with
  | nil => rfl
  | cons value values hypothesis => simp [collect, hypothesis, Except.map]

/-- The bytes of records are read as the records. -/
theorem records_bytes
    {stored : List Record}
    (words : ∀ record ∈ stored, record.txid ≤ Word.max) :
    records (bytes stored) = .ok stored := by
  rw [records, readLines_bytes words, collect_map_ok]

/-- A segment whose file holds the bytes of records is read as the records. -/
theorem read_of_item?
    {disk : Disk}
    {directory : Location}
    {span : Span}
    {stored : List Record}
    (isFile : disk.item? (location directory span) =
      some (.file (bytes stored)))
    (words : ∀ record ∈ stored, record.txid ≤ Word.max) :
    read disk directory span = .ok stored := by
  simp only [read, Disk.read, isFile, records_bytes words]

/-! ## Buffers read back -/

/-- Records that are written one by one are read back from a file of their
buffer, in order and without an error. Each keeps to its own line, whatever its
path, and is read from that line alone; files of two buffers in a row hold the
records of both. -/
theorem read_ofRecords :
    (∀ (stored : List Record), (∀ record ∈ stored, record.txid ≤ Word.max) →
      readLines (Buffer.ofRecords stored).bytes = stored.map .ok ∧
      ∀ (disk : Disk) (directory : Location) (span : Span),
        disk.item? (location directory span) =
          some (.file (Buffer.ofRecords stored).bytes) →
        read disk directory span = .ok stored) ∧
    (∀ record : Record, '\n' ∉ record.line.toList ∧
      (record.txid ≤ Word.max →
        Record.decode record.line.toList = .ok record)) ∧
    ∀ (left right : List Record),
      (∀ record ∈ left ++ right, record.txid ≤ Word.max) →
      records ((Buffer.ofRecords left).bytes ++
        (Buffer.ofRecords right).bytes) =
        .ok (left ++ right) := by
  refine ⟨fun stored words => ⟨?_, fun disk directory span isFile => ?_⟩,
    fun record => ?_,
    fun left right words => ?_⟩
  · rw [Buffer.ofRecords_eq, readLines_bytes words]
  · rw [Buffer.ofRecords_eq] at isFile
    simp only [read, Disk.read, isFile, records_bytes words]
  · rw [Record.line, String.toList_ofList]
    exact ⟨record.not_mem_encode, fun word => Record.decode_encode word⟩
  · rw [Buffer.ofRecords_eq, Buffer.ofRecords_eq, ← bytes_append,
      records_bytes words]

/-- Records whose paths hold what ends lines, strings and escapes. -/
def awkwardRecords : List Record :=
  [⟨0, .makeDirectory ""⟩, ⟨Word.max, .createFile " \"\\\r\n\t\u2028\x01 "⟩,
    ⟨7, .makeDirectory "\r\n"⟩]

theorem read_ofRecords_awkward :
    readLines (Buffer.ofRecords awkwardRecords).bytes = awkwardRecords.map .ok ∧
      (∀ record ∈ awkwardRecords,
        Record.decode record.line.toList = .ok record) ∧
      records ((Buffer.ofRecords awkwardRecords).bytes ++
        (Buffer.ofRecords awkwardRecords).bytes) =
        .ok (awkwardRecords ++ awkwardRecords) ∧
      read ⟨[(["1_2.log"], .file (Buffer.ofRecords awkwardRecords).bytes)], 0,
        fun _ => none⟩ [] ⟨1, 2⟩ = .ok awkwardRecords := by
  have words : ∀ record ∈ awkwardRecords, record.txid ≤ Word.max := by decide
  obtain ⟨together, alone, inARow⟩ := read_ofRecords
  exact ⟨(together awkwardRecords words).1,
    fun record present => (alone record).2
      (words record present),
    inARow _ _ fun record present =>
      words record ((List.mem_append.mp present).elim id id),
    (together awkwardRecords words).2 _ _ _ (by decide +kernel)⟩

end Segment
end NameService
