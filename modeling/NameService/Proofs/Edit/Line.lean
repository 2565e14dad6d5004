import NameService.Edit.Line
import NameService.Proofs.Json.Shape
import NameService.Proofs.Text.Trim

/-!
# Record lines read back

The line of a record is read as the record, if its transaction id is a word. A
line starts with a brace, ends with one, and holds no separator of records.
-/

namespace NameService
namespace Record

/-- The members of a record's line. -/
def members (record : Record) : List (String × List Char) :=
  [("txid", Json.number record.txid),
    ("op", Json.string record.operation.keyword),
    ("path", Json.string record.operation.path)]

theorem encode_eq (record : Record) :
    record.encode =
      Json.object
        (record.members.map fun entry => Json.member entry.1 entry.2) :=
  rfl

/-- A string is read in full as a text. -/
theorem reads_scalar (text : String) :
    Json.Reads readScalar (Json.string text) (.text text) := by
  intro rest ends
  rw [Json.string, List.map_cons, List.cons_append, readScalar,
    Json.skipSpace_cons_of_not_space (by decide)]
  simp [Json.readString_stringBody, Except.map]

/-- The draft of a record of which everything is read. -/
def draft (record : Record) : Draft :=
  ⟨some record.txid, some (.text record.operation.keyword),
    some (.text record.operation.path)⟩

@[simp] theorem finish_draft (record : Record) :
    record.draft.finish = some record := by
  simp [draft, Draft.finish, Operation.ofScalars?]

/-- The members of a line give the draft of its record. -/
theorem takes_members {record : Record} (word : record.txid ≤ Word.max) :
    Json.Takes readMember .empty record.members record.draft := by
  have first : Json.TakesMember readMember .empty "txid"
      (Json.number record.txid)
      { Draft.empty with txid := some record.txid } := by
    intro rest ends
    simp [readMember, Json.skipColon, Json.skipSpace, Json.isSpace,
      Json.reads_number word rest ends, bind, Except.bind, pure, Except.pure,
      Draft.empty]
  have second : Json.TakesMember readMember
      { Draft.empty with txid := some record.txid } "op"
      (Json.string record.operation.keyword) { Draft.empty with
        txid := some record.txid,
        tag := some (.text record.operation.keyword) } := by
    intro rest ends
    simp [readMember, Json.skipColon, Json.skipSpace, Json.isSpace,
      reads_scalar _ rest ends, bind, Except.bind, pure, Except.pure,
      Draft.empty]
  refine .cons first (.cons second (.cons (fun rest ends => ?_) (.nil _)))
  simp [readMember, Json.skipColon, Json.skipSpace, Json.isSpace,
    reads_scalar _ rest ends, bind, Except.bind, pure, Except.pure, Draft.empty,
    draft]

/-- The line of a record is read as the record. -/
theorem reads_encode {record : Record} (word : record.txid ≤ Word.max) :
    Json.Reads read record.encode record := by
  intro rest ends
  rw [encode_eq, Json.object_eq, read,
    Json.skipSpace_cons_of_not_space (by decide)]
  simp [Json.readMembers_object (takes_members word), Json.closeObject_end,
    bind, Except.bind, pure, Except.pure]

/-- A text between two characters that are not blank is not trimmed. -/
theorem trim_of_not_blank
    {first last : Char}
    (text : List Char)
    (firstSolid : Text.isBlank first = false)
    (lastSolid : Text.isBlank last = false) :
    Text.trim (first :: (text ++ [last])) = first :: (text ++ [last]) := by
  rw [Text.trim_of_starts_solid firstSolid, Text.trimEnd_eq_self_iff,
    ← List.cons_append]
  intro c isLast
  rw [List.getLast?_concat] at isLast
  obtain rfl := Option.some.inj isLast
  exact lastSolid

/-- The record on its line. -/
@[simp] theorem decode_encode
    {record : Record}
    (word : record.txid ≤ Word.max) :
    decode record.encode = .ok record := by
  have untrimmed : Text.trim record.encode = record.encode :=
    trim_of_not_blank _ (by decide) (by decide)
  rw [decode, untrimmed, Json.readDocument_of_reads (reads_encode word)]
  rfl

/-! ## Lines hold no separator -/

/-- No character of a string is a line break. -/
theorem not_mem_stringChar (c : Char) : '\n' ∉ Json.stringChar c := by
  unfold Json.stringChar
  have digits : ∀ value < 0x20,
      '\n' ∉ ['\\', 'u', '0', '0', Json.hexDigit (value / 16),
        Json.hexDigit (value % 16)] := by decide
  split
  · decide
  split
  · decide
  split
  · decide
  split
  · decide
  split
  · decide
  split
  · decide
  split
  · decide
  split
  · rename_i control
    exact digits c.toNat control
  · rename_i notBreak _ _ _
    simpa using Ne.symm notBreak

theorem not_mem_string (text : String) : '\n' ∉ Json.string text := by
  simp [Json.string, Json.stringBody, not_mem_stringChar]

/-- The line of a record has no line break. -/
theorem not_mem_encode (record : Record) : '\n' ∉ record.encode := by
  have numeral : '\n' ∉ Json.number record.txid :=
    Text.not_mem_decimal (by decide)
  simp [encode, Json.object, Json.commaSeparated, Json.member, not_mem_string,
    numeral]

end Record
end NameService
