import NameService.Proofs.Log.Flusher
import NameService.Recovery

/-!
# Entries taken for segments

The name of an entry tells a span if its ends are numerals of words in order,
with a plus sign or zeros in front of either. A directory is listed with one
span for each entry that tells it, under whatever name. Segments are opened by
the shortest name of their span, so one that is only there under another name is
listed and not found.
-/

namespace NameService

namespace Span

/-- A name that tells a span, with padding in front of both ends. -/
def paddedName (first last : Text.Padding) (span : Span) : String :=
  String.ofList (first.chars ++ Text.decimal span.first ++
    '_' :: (last.chars ++ Text.decimal span.last) ++ ending)

@[simp] theorem paddedName_none (span : Span) :
    span.paddedName .none .none = span.fileName := by
  simp [paddedName, fileName, fileNameChars]

/-- Any padding makes another name. -/
theorem paddedName_eq_fileName_iff {span : Span} {first last : Text.Padding} :
    span.paddedName first last = span.fileName ↔
      first = .none ∧ last = .none := by
  constructor
  · intro same
    have chars := congrArg String.length same
    simp only [paddedName, fileName, fileNameChars, String.length_ofList,
      List.length_append, List.length_cons] at chars
    exact ⟨Text.Padding.eq_none_of_length (by omega),
      Text.Padding.eq_none_of_length (by omega)⟩
  · rintro ⟨rfl, rfl⟩
    exact paddedName_none span

theorem withoutEnding?_eq_some_iff {ending text stem : List Char} :
    withoutEnding? ending text = some stem ↔ text = stem ++ ending := by
  constructor
  · intro isStem
    rw [withoutEnding?] at isStem
    split at isStem
    · rename_i isSuffix
      obtain ⟨front, rfl⟩ := List.isSuffixOf_iff_suffix.mp isSuffix
      simpa using Option.some.inj isStem
    · cases isStem
  · rintro rfl
    exact withoutEnding?_append ending stem

/-- A name tells a sound span if it is the name of its file, up to padding. -/
theorem ofFileName?_eq_some_iff {name : String} {span : Span} :
    ofFileName? name = some span ↔
      span.Sound ∧ ∃ first last, name = span.paddedName first last := by
  constructor
  · intro told
    obtain ⟨stem, isStem, rest⟩ := Option.bind_eq_some_iff.mp told
    obtain ⟨⟨left, right⟩, isSplit, rest⟩ := Option.bind_eq_some_iff.mp rest
    obtain ⟨first, isFirst, rest⟩ := Option.bind_eq_some_iff.mp rest
    obtain ⟨last, isLast, rest⟩ := Option.bind_eq_some_iff.mp rest
    simp only at rest
    split at rest
    · rename_i ordered
      obtain rfl := Option.some.inj rest
      obtain ⟨-, x, isCut, rfl⟩ := Text.splitOnce_eq_some_iff.mp isSplit
      obtain rfl : x = '_' := by simpa using isCut
      obtain ⟨-, firstPadding, rfl⟩ := Text.decimal?_eq_some_iff.mp isFirst
      obtain ⟨word, lastPadding, rfl⟩ := Text.decimal?_eq_some_iff.mp isLast
      refine ⟨⟨ordered, word⟩, firstPadding, lastPadding, ?_⟩
      rw [paddedName, ← withoutEnding?_eq_some_iff.mp isStem,
        String.ofList_toList]
    · cases rest
  · rintro ⟨sound, first, last, rfl⟩
    have isFirst :=
      Text.decimal?_padded (Nat.le_trans sound.ordered sound.word) first
    have isLast := Text.decimal?_padded sound.word last
    have isSplit :=
      Text.splitOnce_append_cut (Text.underscore_not_mem_of_decimal? isFirst)
        (by decide : ('_' == '_') = true) (last.chars ++ Text.decimal span.last)
    rw [ofFileName?, paddedName, String.toList_ofList, ofChars?,
      withoutEnding?_append]
    simp only [Option.bind_eq_bind, Option.bind_some, isSplit, isFirst, isLast,
      if_pos sound.ordered]

end Span

namespace Disk

variable {disk : Disk} {directory : Location} {names : List String}

/-- The names of a directory are those of what is in it. -/
theorem mem_names_iff
    (named : disk.names directory = .ok names)
    {name : String}
    (inside : (directory ++ [name]).isLandmark = false) :
    name ∈ names ↔ disk.item? (directory ++ [name]) ≠ none := by
  rw [Disk.names] at named
  split at named
  · obtain rfl := Except.ok.inj named
    rw [item?, inside, if_neg Bool.false_ne_true, Ne, List.lookup_eq_none_iff,
      List.mem_filterMap]
    constructor
    · rintro ⟨⟨place, item⟩, present, isName⟩ absent
      split at isName
      · rename_i inDirectory
        have whole : place = directory ++ [name] := by
          rw [← inDirectory, List.dropLast_append_getLast? name isName]
        have unequal := absent (place, item) present
        simp [whole] at unequal
      · cases isName
    · intro notAbsent
      by_contra unnamed
      refine notAbsent fun entry present => ?_
      rw [bne_iff_ne]
      intro whole
      exact unnamed ⟨entry, present, by simp [← whole]⟩
  · cases named
  · cases named

end Disk

namespace Segment

variable {disk : Disk} {directory : Location} {names : List String}

/-- A segment file is no landmark. -/
theorem isLandmark_location (directory : Location) (span : Span) :
    (location directory span).isLandmark = false := by
  have ends : span.fileName.toList.getLast? = some 'g' := by
    rw [Span.fileName, String.toList_ofList, Span.fileNameChars,
      List.getLast?_append]
    rfl
  refine Location.isLandmark_append_singleton ?_ ?_ directory
  · intro same
    rw [same] at ends
    revert ends
    decide
  · intro same
    rw [same] at ends
    revert ends
    decide

/-- What is wrong with a line is never that a file is missing. -/
theorem records_ne_notFound (content : Bytes) :
    records content ≠ .error (.file .notFound) := by
  rw [records, readLines]
  induction lines content with
  | nil => simp [collect]
  | cons line rest hypothesis =>
      rw [List.map_cons, readLine]
      cases Text.characters? line with
      | none => simp [collect]
      | some text =>
          simp only
          cases Record.decode text with
          | error cause => simp [collect, Except.mapError]
          | ok record =>
              cases behind : collect (rest.map readLine) with
              | error error =>
                  simpa [collect, Except.mapError, Except.map, behind] using
                    hypothesis
              | ok stored => simp [collect, Except.mapError, Except.map, behind]

/-- A segment is not found exactly if no entry has the name of its file. -/
theorem read_eq_notFound_iff
    (stands : disk.Stands directory)
    (noEnd : ∀ name ∈ directory, '\x00' ∉ name.toList)
    (named : disk.names directory = .ok names)
    {span : Span}
    (sound : span.Sound) :
    read disk directory span = .error (.file .notFound) ↔
      span.fileName ∉ names := by
  have absent :=
    Disk.absence_of_stands stands noEnd (Span.plain_fileName sound).1
  rw [Disk.mem_names_iff named (isLandmark_location directory span), not_not,
    read, Disk.read]
  change _ ↔ disk.item? (location directory span) = none
  cases held : disk.item? (location directory span) with
  | none =>
      rw [location] at *
      simp [absent]
  | some item =>
      cases item with
      | directory => simp
      | file content => simpa using records_ne_notFound content

/-- A directory is listed with one span for each of its entries that tells
it. -/
theorem count_list
    (stands : disk.Stands directory)
    (named : disk.names directory = .ok names) :
    ∃ spans, list disk directory = .ok spans ∧
      ∀ span, spans.count span =
        names.countP fun name => Span.ofFileName? name == some span := by
  have present : disk.has directory = true := by
    simp [Disk.has, stands.item?_eq]
  refine ⟨Span.ofFileNames names, by simp [list, present, named],
    fun span => ?_⟩
  rw [Span.ofFileNames, (Sorting.sort_perm Span.below _).count_eq,
    List.count_filterMap]

/-- Entries whose names are all without padding are listed once each, and
found. -/
theorem nodup_of_unpadded
    {spans : List Span}
    (counted : ∀ span, spans.count span =
      names.countP fun name => Span.ofFileName? name == some span)
    (distinct : names.Nodup)
    (unpadded : ∀ name ∈ names, ∀ span, Span.ofFileName? name = some span →
      name = span.fileName) :
    spans.Nodup ∧ ∀ span ∈ spans, span.fileName ∈ names := by
  constructor
  · rw [List.nodup_iff_count_le_one]
    intro span
    rw [counted span]
    refine Nat.le_trans (List.countP_mono_left fun name present told => ?_)
      (List.nodup_iff_count_le_one.mp distinct span.fileName)
    simpa using unpadded name present span (by simpa using told)
  · intro span present
    have positive := List.count_pos_iff.mpr present
    rw [counted span, List.countP_pos_iff] at positive
    obtain ⟨name, isEntry, told⟩ := positive
    exact unpadded name isEntry span (by simpa using told) ▸ isEntry

/-- The names that tell a span are that of its file and those with padding in
front of an end. A directory is listed with a span once for each entry that
tells it, and a listed segment is not found exactly if no entry has the name of
its file. Entries that all have the names of their files are listed once each,
and found. -/
theorem list_counts_paddedNames
    (stands : disk.Stands directory)
    (noEnd : ∀ name ∈ directory, '\x00' ∉ name.toList)
    (named : disk.names directory = .ok names) :
    (∀ name span, Span.ofFileName? name = some span ↔
      span.Sound ∧ ∃ first last, name = span.paddedName first last) ∧
    (∀ span first last, Span.paddedName first last span = span.fileName ↔
      first = .none ∧ last = .none) ∧
    ∃ spans, list disk directory = .ok spans ∧
      (∀ span, spans.count span = names.countP fun name =>
        Span.ofFileName? name == some span) ∧
      (∀ span ∈ spans,
        read disk directory span = .error (.file .notFound) ↔
          span.fileName ∉ names) ∧
      (names.Nodup →
        (∀ name ∈ names, ∀ span, Span.ofFileName? name = some span →
          name = span.fileName) →
        spans.Nodup ∧ ∀ span ∈ spans, span.fileName ∈ names) := by
  obtain ⟨spans, isList, counted⟩ := count_list stands named
  exact ⟨fun name span => Span.ofFileName?_eq_some_iff,
    fun span first last => Span.paddedName_eq_fileName_iff, spans, isList,
    counted,
    fun span present =>
      read_eq_notFound_iff stands noEnd named
        (sound_of_mem_list isList present),
    nodup_of_unpadded counted⟩

/-- A disk on which one segment has its own name and two others, one is only
there under another name, and one is there under its own alone. -/
def paddedDisk : Disk where
  items :=
    [(["shared"], .directory), (["lost"], .directory), (["tidy"], .directory),
      (["shared", "1_2.log"], .file []), (["shared", "01_2.log"], .file []),
      (["shared", "1_+2.log"], .file []), (["lost", "+1_2.log"], .file []),
      (["tidy", "1_2.log"], .file []), (["tidy", "3_3.log.tmp"], .file [])]
  clock := 0
  failures _ := none

theorem list_counts_paddedNames_shared_and_tidy :
    (∃ spans, list paddedDisk ["shared"] = .ok spans ∧ spans.count ⟨1, 2⟩ = 3) ∧
    (∃ spans, list paddedDisk ["tidy"] = .ok spans ∧ spans.Nodup ∧
      ∀ span ∈ spans, span.fileName ∈ ["1_2.log", "3_3.log.tmp"]) := by
  constructor
  · obtain ⟨-, -, spans, isList, counted, -⟩ :=
      @list_counts_paddedNames paddedDisk ["shared"]
        ["1_2.log", "01_2.log", "1_+2.log"] (by decide) (by decide) (by decide)
    exact ⟨spans, isList, by rw [counted]; decide⟩
  · obtain ⟨-, -, spans, isList, -, -, tidy⟩ :=
      @list_counts_paddedNames paddedDisk ["tidy"] ["1_2.log", "3_3.log.tmp"]
        (by decide) (by decide) (by decide)
    refine ⟨spans, isList, tidy (by decide) fun name present span told => ?_⟩
    rcases List.mem_cons.mp present with rfl | present
    · have own : Span.ofFileName? "1_2.log" = some ⟨1, 2⟩ := by decide
      obtain rfl := Option.some.inj (own.symm.trans told)
      decide
    · obtain rfl := List.mem_singleton.mp present
      have other : Span.ofFileName? "3_3.log.tmp" = none := by decide
      cases other.symm.trans told

/-- A name with a sign or a zero in front of an end is taken for a segment, one
span is listed for several entries, and a segment that is listed is missing when
a replay opens it. -/
theorem list_duplicates_and_misses :
    Span.ofFileName? "+1_2.log" = some ⟨1, 2⟩ ∧
      "+1_2.log" ≠ Span.fileName ⟨1, 2⟩ ∧
      list paddedDisk ["shared"] = .ok [⟨1, 2⟩, ⟨1, 2⟩, ⟨1, 2⟩] ∧
      list paddedDisk ["lost"] = .ok [⟨1, 2⟩] ∧
      read paddedDisk ["lost"] ⟨1, 2⟩ = .error (.file .notFound) ∧
      (Recovery.replay paddedDisk ["lost"] 0 Tree.root).2 =
        .error (.file .notFound) := by
  decide +kernel

end Segment
end NameService
