import NameService.Checkpoint
import NameService.Proofs.Backup.Naming
import NameService.Proofs.Text.Split
import NameService.Proofs.Text.Trim

/-!
# The line of a checkpoint

A line is trimmed and cut at its first two underscores into the numerals of two
words and the name of an image. So a checkpoint is read back from its line
exactly if that name is neither empty nor ends with a blank character, whatever
else stands in it, and what is read from any line is read back from its own.
-/

namespace NameService
namespace Checkpoint
namespace Info

variable {info : Info} {text given first second rest : List Char}

/-! ## Fields -/

/-- The fields of a text are those around its first two underscores. -/
theorem fields?_eq_some_iff :
    fields? text = some (first, second, rest) ↔
      (∀ c ∈ first, (c == '_') = false) ∧ (∀ c ∈ second, (c == '_') = false) ∧
        text = first ++ '_' :: (second ++ '_' :: rest) := by
  constructor
  · intro cut
    obtain ⟨⟨left, behind⟩, isLeft, cut⟩ := Option.bind_eq_some_iff.mp cut
    obtain ⟨⟨right, name⟩, isRight, cut⟩ := Option.bind_eq_some_iff.mp cut
    cases cut
    obtain ⟨firstWhole, c, isCut, rfl⟩ := Text.splitOnce_eq_some_iff.mp isLeft
    obtain ⟨secondWhole, d, isOther, rfl⟩ :=
      Text.splitOnce_eq_some_iff.mp isRight
    obtain rfl := beq_iff_eq.mp isCut
    obtain rfl := beq_iff_eq.mp isOther
    exact ⟨firstWhole, secondWhole, rfl⟩
  · rintro ⟨firstWhole, secondWhole, rfl⟩
    simp [fields?, Text.splitOnce_append_cut firstWhole,
      Text.splitOnce_append_cut secondWhole]

/-- A text has fields exactly if it has two underscores. -/
theorem fields?_eq_none_iff : fields? text = none ↔ text.count '_' < 2 := by
  have uncounted {part : List Char} (whole : ∀ c ∈ part, (c == '_') = false) :
      part.count '_' = 0 :=
    List.count_eq_zero.mpr fun present => by cases whole '_' present
  constructor
  · intro uncut
    by_contra many
    cases isLeft : Text.splitOnce (· == '_') text with
    | none =>
        have whole := Text.splitOnce_eq_none_iff.mp isLeft
        exact many (by rw [uncounted whole]; decide)
    | some cut =>
        obtain ⟨first, behind⟩ := cut
        cases isRight : Text.splitOnce (· == '_') behind with
        | none =>
            have whole := Text.splitOnce_eq_none_iff.mp isRight
            obtain ⟨firstWhole, c, isCut, rfl⟩ :=
              Text.splitOnce_eq_some_iff.mp isLeft
            refine many ?_
            rw [List.count_append, List.count_cons, uncounted firstWhole,
              uncounted whole, isCut]
            decide
        | some cut => simp [fields?, isLeft, isRight] at uncut
  · intro few
    by_contra cut
    obtain ⟨⟨first, second, rest⟩, isCut⟩ := Option.ne_none_iff_exists'.mp cut
    obtain ⟨-, -, rfl⟩ := fields?_eq_some_iff.mp isCut
    simp only [List.count_append, List.count_cons_self] at few
    omega

/-! ## Reading -/

/-- A text is the numerals of the words of a checkpoint and the name of its
image, with underscores between them. -/
structure Spells (info : Info) (text : List Char) : Prop where
  named : info.imageFile ≠ ""
  fields : ∃ timestamp txid,
    Text.decimal? timestamp = some info.timestamp ∧
      Text.decimal? txid = some info.txid ∧
      text = timestamp ++ '_' :: (txid ++ '_' :: info.imageFile.toList)

/-- The checkpoint that fields stand for is read from them, if they stand for
one. -/
theorem decode_of_fields
    (cut : fields? (Text.trim given) = some (first, second, rest)) :
    decode given = .ok info ↔
      Text.decimal? first = some info.timestamp ∧
        Text.decimal? second = some info.txid ∧
        rest ≠ [] ∧ String.ofList rest = info.imageFile := by
  obtain ⟨timestamp, txid, imageFile⟩ := info
  rw [decode, cut]
  simp only [Text.decimal?]
  cases rest with
  | nil => simp
  | cons c rest =>
      cases Text.readDecimal first <;> cases Text.readDecimal second <;>
        simp [Except.mapError, Except.toOption, bind, Except.bind, pure,
          Except.pure]

/-- A checkpoint is read from the lines that spell it once they are trimmed. -/
theorem decode_eq_ok_iff :
    decode given = .ok info ↔ info.Spells (Text.trim given) := by
  constructor
  · intro isRead
    cases cut : fields? (Text.trim given) with
    | none => simp [decode, cut] at isRead
    | some fields =>
        obtain ⟨first, second, rest⟩ := fields
        obtain ⟨isFirst, isSecond, nonempty, isName⟩ :=
          (decode_of_fields cut).mp isRead
        obtain ⟨-, -, isText⟩ := fields?_eq_some_iff.mp cut
        refine ⟨?_, first, second, isFirst, isSecond, ?_⟩
        · rw [← isName]
          simpa using nonempty
        · rw [← isName, String.toList_ofList, isText]
  · rintro ⟨named, first, second, isFirst, isSecond, isText⟩
    have cut :=
      fields?_eq_some_iff.mpr ⟨Text.underscore_not_mem_of_decimal? isFirst,
        Text.underscore_not_mem_of_decimal? isSecond, isText⟩
    refine (decode_of_fields cut).mpr
      ⟨isFirst, isSecond, ?_, String.ofList_toList⟩
    simpa using named

/-! ## Reading back -/

/-- The line of a checkpoint is trimmed at the end of the name of its image
only. -/
theorem trim_encode (info : Info) :
    Text.trim info.encode =
      Text.decimal info.timestamp ++ '_' ::
        (Text.decimal info.txid ++ '_' ::
          Text.trimEnd info.imageFile.toList) := by
  have underscore : Text.isBlank '_' = false := by decide
  obtain ⟨digit, digits, starts⟩ :=
    List.exists_cons_of_ne_nil (Text.decimal_ne_nil info.timestamp)
  have isDigit := Text.isDigit_of_mem_decimal (starts ▸ List.mem_cons_self)
  rw [encode, starts, List.cons_append,
    Text.trim_of_starts_solid (Text.isBlank_of_isDigit isDigit),
    ← List.cons_append, Text.trimEnd_append_solid underscore,
    Text.trimEnd_append_solid underscore]

/-- A checkpoint is read back from its line exactly if the name of its image is
not empty and does not end with a blank character. -/
theorem decode_encode_iff (timestampWord : info.timestamp ≤ Word.max)
    (txidWord : info.txid ≤ Word.max) :
    decode info.encode = .ok info ↔
      info.imageFile ≠ "" ∧ Text.EndsSolid info.imageFile.toList := by
  have isFirst := Text.decimal?_decimal timestampWord
  have isSecond := Text.decimal?_decimal txidWord
  have cut :=
    fields?_eq_some_iff.mpr ⟨Text.underscore_not_mem_of_decimal? isFirst,
      Text.underscore_not_mem_of_decimal? isSecond, trim_encode info⟩
  rw [decode_of_fields cut, ← Text.trimEnd_eq_self_iff]
  constructor
  · rintro ⟨-, -, nonempty, isName⟩
    have same := congrArg String.toList isName
    rw [String.toList_ofList] at same
    refine ⟨fun empty => nonempty ?_, same⟩
    rw [same, empty]
    rfl
  · rintro ⟨named, same⟩
    rw [same]
    exact ⟨isFirst, isSecond, by simpa using named, String.ofList_toList⟩

/-- A checkpoint that is read from any line is read back from its own. -/
theorem decode_encode_of_decode (isRead : decode given = .ok info) :
    decode info.encode = .ok info := by
  obtain ⟨named, first, second, isFirst, isSecond, isText⟩ :=
    decode_eq_ok_iff.mp isRead
  obtain ⟨timestampWord, -⟩ := Text.decimal?_eq_some_iff.mp isFirst
  obtain ⟨txidWord, -⟩ := Text.decimal?_eq_some_iff.mp isSecond
  refine (decode_encode_iff timestampWord txidWord).mpr ⟨named, ?_⟩
  have split : Text.trim given =
      (first ++ '_' :: second ++ ['_']) ++ info.imageFile.toList := by
    rw [isText]
    simp
  have solid := Text.endsSolid_trim given
  rw [split] at solid
  exact solid.of_append

/-! ## Lines that are refused -/

/-- A text lacks what the line of a checkpoint has to have: two underscores, a
word in either of the first two fields, or a name behind them. -/
def Lacking (text : List Char) : Prop :=
  text.count '_' < 2 ∨ ∃ first second rest,
    '_' ∉ first ∧ '_' ∉ second ∧
      text = first ++ '_' :: (second ++ '_' :: rest) ∧
      (Text.decimal? first = none ∨ Text.decimal? second = none ∨ rest = [])

/-- The lines that are refused are those that lack something once they are
trimmed. -/
theorem exists_error_iff_lacking :
    (∃ cause, decode given = .error cause) ↔ Lacking (Text.trim given) := by
  have whole {part : List Char} : '_' ∉ part ↔
      ∀ c ∈ part, (c == '_') = false := by
    simp [List.forall_mem_ne']
  have refused : (∃ cause, decode given = .error cause) ↔
      ∀ info, decode given ≠ .ok info := by
    cases decode given <;> simp
  rw [refused, Lacking, ← fields?_eq_none_iff]
  cases cut : fields? (Text.trim given) with
  | none => simp [decode, cut]
  | some fields =>
      obtain ⟨first, second, rest⟩ := fields
      simp only [reduceCtorEq, false_or]
      constructor
      · intro refused
        obtain ⟨firstWhole, secondWhole, isText⟩ := fields?_eq_some_iff.mp cut
        refine ⟨first, second, rest, whole.mpr firstWhole,
          whole.mpr secondWhole, isText, ?_⟩
        by_contra complete
        simp only [not_or, ← ne_eq, Option.ne_none_iff_exists'] at complete
        obtain ⟨⟨timestamp, isFirst⟩, ⟨txid, isSecond⟩, nonempty⟩ := complete
        exact refused ⟨timestamp, txid, String.ofList rest⟩
          ((decode_of_fields cut).mpr ⟨isFirst, isSecond, nonempty, rfl⟩)
      · rintro ⟨first, second, rest, firstWhole, secondWhole, isText, lacks⟩
          info isRead
        have same :=
          fields?_eq_some_iff.mpr
            ⟨whole.mp firstWhole, whole.mp secondWhole, isText⟩
        obtain ⟨isFirst, isSecond, nonempty, -⟩ :=
          (decode_of_fields same).mp isRead
        rcases lacks with none | none | none
        · simp [none] at isFirst
        · simp [none] at isSecond
        · exact nonempty none

/-! ## Round trips -/

@[simp] theorem toList_line (info : Info) :
    info.line.toList = info.encode := String.toList_ofList

/-- The name of an image of a Backup is not empty and does not end with a blank
character. -/
theorem named_backupImageName (txid : Nat) :
    Settings.backupImageName txid ≠ "" ∧
      Text.EndsSolid (Settings.backupImageName txid).toList := by
  have isLast := Settings.getLast?_backupImageName txid
  constructor
  · intro empty
    rw [empty] at isLast
    cases isLast
  · intro c present
    obtain rfl := Option.some.inj (isLast.symm.trans present)
    decide

/-- A checkpoint of two words is read back from its line exactly if the name of
its image is not empty and does not end with a blank character, and so is every
one that a Backup takes. What is read from any line is read back from its own,
and the lines that are refused are those that lack two underscores, a word in
either of the first two fields or a name behind them. -/
theorem line_readsBack :
    (∀ info : Info, info.timestamp ≤ Word.max → info.txid ≤ Word.max →
      (decode info.line.toList = .ok info ↔
        info.imageFile ≠ "" ∧ Text.EndsSolid info.imageFile.toList)) ∧
    (∀ timestamp txid : Nat, timestamp ≤ Word.max → txid ≤ Word.max →
      decode (line ⟨timestamp, txid, Settings.backupImageName txid⟩).toList =
        .ok ⟨timestamp, txid, Settings.backupImageName txid⟩) ∧
    (∀ (text : List Char) (info : Info), decode text = .ok info →
      decode info.line.toList = .ok info) ∧
    ∀ text : List Char, (∃ cause, decode text = .error cause) ↔
    Lacking (Text.trim text) := by
  simp only [toList_line]
  refine ⟨fun info timestampWord txidWord =>
    decode_encode_iff timestampWord txidWord,
    fun timestamp txid timestampWord txidWord => ?_,
    fun text info isRead => decode_encode_of_decode isRead,
    fun text => exists_error_iff_lacking⟩
  exact (decode_encode_iff timestampWord txidWord).mpr
    (named_backupImageName txid)

/-- A name with a blank front, underscores and a line break, and a line with
padded numerals between blank characters. -/
theorem line_readsBack_odd :
    decode (line ⟨5, Word.max, " _a\n_b"⟩).toList =
      .ok ⟨5, Word.max, " _a\n_b"⟩ ∧
      decode " +05_007_image_v2.json\n".toList = .ok ⟨5, 7, "image_v2.json"⟩ ∧
      decode (line ⟨5, 7, "image_v2.json"⟩).toList =
        .ok ⟨5, 7, "image_v2.json"⟩ ∧
      decode (line ⟨0, 391, Settings.backupImageName 391⟩).toList =
        .ok ⟨0, 391, Settings.backupImageName 391⟩ := by
  have isRead : decode " +05_007_image_v2.json\n".toList =
      .ok ⟨5, 7, "image_v2.json"⟩ := by
    decide +kernel
  have named : " _a\n_b" ≠ "" ∧ Text.EndsSolid " _a\n_b".toList := by
    decide +kernel
  exact ⟨(line_readsBack.1 ⟨5, Word.max, " _a\n_b"⟩ (by decide) (by decide)).mpr
    named, isRead,
    line_readsBack.2.2.1 _ _ isRead,
    line_readsBack.2.1 0 391 (by decide) (by decide)⟩

end Info
end Checkpoint
end NameService
