import NameService.Proofs.Log.Course
import NameService.Proofs.Recovery.Replay

/-!
# The order of a replay

Segments may overlap, leave gaps, come twice or hold other records than their
names tell. A replay reads those that end above its floor, line by line up to
the first fault, and applies a record if its transaction id is above the floor
and above those of all records before it. So no transaction id is applied twice,
and none after a higher one. Over segments that lie end to end and hold what
their names tell these are all records above the floor, and a replay may be left
off and taken up again later on.
-/

namespace NameService

/-! ## Rising records -/

namespace Record

/-- The records whose transaction ids are above a floor and above those of all
records before them. -/
def rising (floor : Nat) : List Record → List Record
  | [] => []
  | record :: rest =>
      if record.txid ≤ floor then rising floor rest else
        record :: rising record.txid rest

theorem rising_cons_of_le
    {floor : Nat}
    {record : Record}
    (old : record.txid ≤ floor)
    (rest : List Record) :
    rising floor (record :: rest) = rising floor rest := by
  rw [rising, if_pos old]

theorem rising_cons_of_lt
    {floor : Nat}
    {record : Record}
    (isNew : floor < record.txid)
    (rest : List Record) :
    rising floor (record :: rest) = record :: rising record.txid rest := by
  rw [rising, if_neg (Nat.not_le.mpr isNew)]

/-- The transaction id of the last of records, or a floor if there are none. -/
def highest (floor : Nat) (records : List Record) : Nat :=
  (Log.maxTxid? records).getD floor

@[simp] theorem highest_nil (floor : Nat) : highest floor [] = floor := rfl

@[simp] theorem highest_cons
    (floor : Nat)
    (record : Record)
    (rest : List Record) :
    highest floor (record :: rest) = highest record.txid rest := by
  simp only [highest, Log.maxTxid?, List.getLast?_cons]
  cases rest.getLast? <;> rfl

theorem highest_append (floor : Nat) (front back : List Record) :
    highest floor (front ++ back) = highest (highest floor front) back := by
  induction front generalizing floor with
  | nil => rfl
  | cons record rest hypothesis =>
      simp only [List.cons_append, highest_cons, hypothesis]

theorem highest_cases (floor : Nat) (records : List Record) :
    highest floor records = floor ∨
      ∃ record ∈ records, highest floor records = record.txid := by
  induction records generalizing floor with
  | nil => exact .inl rfl
  | cons first rest hypothesis =>
      rw [highest_cons]
      rcases hypothesis first.txid with none | ⟨record, present, isLast⟩
      · exact .inr ⟨first, List.mem_cons_self, none⟩
      · exact .inr ⟨record, List.mem_cons_of_mem _ present, isLast⟩

theorem rising_sublist (floor : Nat) (records : List Record) :
    (rising floor records).Sublist records := by
  induction records generalizing floor with
  | nil => exact .slnil
  | cons record rest hypothesis =>
      by_cases old : record.txid ≤ floor
      · rw [rising_cons_of_le old]
        exact (hypothesis floor).cons record
      · rw [rising_cons_of_lt (Nat.lt_of_not_le old)]
        exact (hypothesis record.txid).cons_cons record

/-- Rising records are above the floor. -/
theorem lt_of_mem_rising
    {floor : Nat}
    {records : List Record}
    {record : Record}
    (present : record ∈ rising floor records) :
    floor < record.txid := by
  induction records generalizing floor with
  | nil => cases present
  | cons first rest hypothesis =>
      by_cases old : first.txid ≤ floor
      · rw [rising_cons_of_le old] at present
        exact hypothesis present
      · have isNew := Nat.lt_of_not_le old
        rw [rising_cons_of_lt isNew] at present
        rcases List.mem_cons.mp present with rfl | behind
        · exact isNew
        · exact Nat.lt_trans isNew (hypothesis behind)

/-- Rising records are each above the one before. -/
theorem pairwise_rising (floor : Nat) (records : List Record) :
    (rising floor records).Pairwise fun left right =>
      left.txid < right.txid := by
  induction records generalizing floor with
  | nil => exact .nil
  | cons record rest hypothesis =>
      by_cases old : record.txid ≤ floor
      · rw [rising_cons_of_le old]
        exact hypothesis floor
      · rw [rising_cons_of_lt (Nat.lt_of_not_le old)]
        exact List.pairwise_cons.mpr
          ⟨fun _ => lt_of_mem_rising, hypothesis record.txid⟩

theorem le_highest_rising (floor : Nat) (records : List Record) :
    floor ≤ highest floor (rising floor records) := by
  induction records generalizing floor with
  | nil => exact Nat.le_refl _
  | cons record rest hypothesis =>
      by_cases old : record.txid ≤ floor
      · rw [rising_cons_of_le old]
        exact hypothesis floor
      · have isNew := Nat.lt_of_not_le old
        rw [rising_cons_of_lt isNew, highest_cons]
        exact Nat.le_trans (Nat.le_of_lt isNew) (hypothesis record.txid)

/-- No record is above the last of the rising ones. -/
theorem txid_le_highest_rising
    (floor : Nat)
    {records : List Record}
    {record : Record}
    (present : record ∈ records) :
    record.txid ≤ highest floor (rising floor records) := by
  induction records generalizing floor with
  | nil => cases present
  | cons first rest hypothesis =>
      by_cases old : first.txid ≤ floor
      · rw [rising_cons_of_le old]
        rcases List.mem_cons.mp present with rfl | behind
        · exact Nat.le_trans old (le_highest_rising floor rest)
        · exact hypothesis floor behind
      · rw [rising_cons_of_lt (Nat.lt_of_not_le old), highest_cons]
        rcases List.mem_cons.mp present with rfl | behind
        · exact le_highest_rising record.txid rest
        · exact hypothesis first.txid behind

/-- Behind other records the last rising one of these is the floor. -/
theorem rising_append (floor : Nat) (front back : List Record) :
    rising floor (front ++ back) =
      rising floor front ++
        rising (highest floor (rising floor front)) back := by
  induction front generalizing floor with
  | nil => rfl
  | cons record rest hypothesis =>
      rw [List.cons_append]
      by_cases old : record.txid ≤ floor
      · rw [rising_cons_of_le old, rising_cons_of_le old]
        exact hypothesis floor
      · have isNew := Nat.lt_of_not_le old
        rw [rising_cons_of_lt isNew, rising_cons_of_lt isNew, highest_cons,
          List.cons_append]
        exact congrArg (record :: ·) (hypothesis record.txid)

/-- Of records in order all that are above the floor are rising. -/
theorem rising_of_increasing
    {records : List Record}
    (increasing : records.Pairwise fun left right => left.txid < right.txid)
    (floor : Nat) :
    rising floor records = records.filter fun record =>
      floor < record.txid := by
  induction records generalizing floor with
  | nil => rfl
  | cons record rest hypothesis =>
      obtain ⟨behind, ordered⟩ := List.pairwise_cons.mp increasing
      by_cases old : record.txid ≤ floor
      · rw [rising_cons_of_le old, List.filter_cons_of_neg (by simpa using old)]
        exact hypothesis ordered floor
      · have isNew := Nat.lt_of_not_le old
        rw [rising_cons_of_lt isNew,
          List.filter_cons_of_pos (by simpa using isNew), hypothesis ordered]
        refine congrArg (record :: ·)
          (List.filter_congr fun other present => ?_)
        have later := behind other present
        simp only [decide_eq_decide]
        omega

/-- Records in order above a floor are those up to a later one and those above
it. -/
theorem filter_append_filter
    {records : List Record}
    (increasing : records.Pairwise fun left right => left.txid < right.txid)
    {floor later : Nat}
    (further : floor ≤ later) :
    (records.filter fun record => floor < record.txid ∧ record.txid ≤ later) ++
        (records.filter fun record => later < record.txid) =
      records.filter fun record => floor < record.txid := by
  induction records with
  | nil => rfl
  | cons record rest hypothesis =>
      obtain ⟨behind, ordered⟩ := List.pairwise_cons.mp increasing
      have split := hypothesis ordered
      by_cases beyond : later < record.txid
      · -- Behind a record above the later floor all are.
        have none :
            (rest.filter fun other => floor < other.txid ∧ other.txid ≤ later) =
              [] := by
          refine List.filter_eq_nil_iff.mpr fun other present => ?_
          have apart := behind other present
          simp only [decide_eq_true_eq]
          omega
        rw [none, List.nil_append] at split
        have above : floor < record.txid := Nat.lt_of_le_of_lt further beyond
        simp only [List.filter_cons, beyond, above, Nat.not_le.mpr beyond, none,
          split, and_false, decide_false, decide_true, Bool.false_eq_true,
          if_true, if_false, List.nil_append]
      · have within : record.txid ≤ later := Nat.le_of_not_lt beyond
        by_cases above : floor < record.txid
        · simp only [List.filter_cons, beyond, above, within, ← split, and_self,
            decide_false, decide_true, Bool.false_eq_true, if_true, if_false,
            List.cons_append]
        · simp only [List.filter_cons, beyond, above, ← split, false_and,
            decide_false, Bool.false_eq_true, if_false]

/-- Records that are taken up again behind a later floor end where they would
have. -/
theorem highest_resumed
    {floor later : Nat}
    {front back : List Record}
    (further : floor ≤ later)
    (before : ∀ record ∈ front, record.txid ≤ later)
    (behind : ∀ record ∈ back, later < record.txid) :
    highest later back = max later (highest floor (front ++ back)) := by
  rw [highest_append]
  cases back with
  | nil =>
      rw [highest_nil, highest_nil]
      rcases highest_cases floor front with none | ⟨record, present, isLast⟩
      · omega
      · have bound := before record present
        omega
  | cons first rest =>
      rw [highest_cons, highest_cons]
      obtain ⟨own, others⟩ := List.forall_mem_cons.mp behind
      rcases highest_cases first.txid rest with none | ⟨record, present, isLast⟩
      · omega
      · have bound := others record present
        omega

end Record

/-! ## Lines that are read -/

namespace Segment

/-- The records on the lines in front of the first one that is none. -/
def leading : List (Except LogError Record) → List Record
  | .ok record :: rest => record :: leading rest
  | _ => []

/-- What is on the lines of the segment of a span, or the one error that it
cannot be opened. -/
def linesAt (disk : Disk) (directory : Location) (span : Span) :
    List (Except LogError Record) :=
  match disk.read (location directory span) with
  | .ok content => readLines content
  | .error error => [.error (.file error)]

/-- A segment is read as its lines are. -/
theorem read_eq_collect (disk : Disk) (directory : Location) (span : Span) :
    read disk directory span = collect (linesAt disk directory span) := by
  simp only [read, linesAt]
  cases disk.read (location directory span) with
  | ok content => rfl
  | error error => rfl

/-- Lines without a fault are records. -/
theorem collect_eq_ok_iff
    {lines : List (Except LogError Record)}
    {stored : List Record} :
    collect lines = .ok stored ↔ lines = stored.map .ok := by
  constructor
  · intro read
    induction lines generalizing stored with
    | nil =>
        have empty : [] = stored := by simpa [collect] using read
        rw [← empty]
        rfl
    | cons line rest hypothesis =>
        cases line with
        | error error => cases read
        | ok record =>
            rw [collect] at read
            cases behind : collect rest with
            | error error => simp [behind, Except.map] at read
            | ok others =>
                have same : record :: others = stored := by
                  simpa [behind, Except.map] using read
                rw [← same, hypothesis behind]
                rfl
  · rintro rfl
    exact collect_map_ok stored

@[simp] theorem leading_map_ok_append
    (stored : List Record)
    (more : List (Except LogError Record)) :
    leading (stored.map .ok ++ more) = stored ++ leading more := by
  induction stored with
  | nil => rfl
  | cons record rest hypothesis =>
      rw [List.map_cons, List.cons_append, leading, hypothesis,
        List.cons_append]

@[simp] theorem leading_map_ok (stored : List Record) :
    leading (stored.map .ok) = stored := by
  simpa [leading] using leading_map_ok_append stored []

theorem collect_map_ok_append
    (stored : List Record)
    (more : List (Except LogError Record)) :
    collect (stored.map .ok ++ more) = (collect more).map (stored ++ ·) := by
  induction stored with
  | nil =>
      rw [List.map_nil, List.nil_append]
      cases collect more <;> rfl
  | cons record rest hypothesis =>
      rw [List.map_cons, List.cons_append, collect, hypothesis]
      cases collect more <;> rfl

/-- What is behind a fault is not read. -/
theorem append_of_collect_error
    {lines : List (Except LogError Record)}
    {error : LogError}
    (faulty : collect lines = .error error)
    (more : List (Except LogError Record)) :
    leading (lines ++ more) = leading lines ∧
      collect (lines ++ more) = .error error := by
  induction lines with
  | nil => cases faulty
  | cons line rest hypothesis =>
      cases line with
      | error first => exact ⟨rfl, faulty⟩
      | ok record =>
          rw [collect] at faulty
          cases behind : collect rest with
          | ok others => simp [behind, Except.map] at faulty
          | error other =>
              have same : other = error := by
                simpa [behind, Except.map] using faulty
              obtain ⟨sameLeading, sameAnswer⟩ := hypothesis (same ▸ behind)
              constructor
              · rw [List.cons_append, leading, leading, sameLeading]
              · rw [List.cons_append, collect, sameAnswer]
                rfl

/-- The records in front of a fault are on lines. -/
theorem mem_of_mem_leading
    {lines : List (Except LogError Record)}
    {record : Record}
    (present : record ∈ leading lines) :
    .ok record ∈ lines := by
  induction lines with
  | nil => cases present
  | cons line rest hypothesis =>
      cases line with
      | error error => cases present
      | ok first =>
          rcases List.mem_cons.mp present with rfl | behind
          · exact List.mem_cons_self
          · exact List.mem_cons_of_mem _ (hypothesis behind)

end Segment

/-! ## Replaying lines and spans -/

namespace Recovery

/-- A progress behind further records from further segments. -/
def Progress.onward
    (progress : Progress)
    (records : List Record)
    (opened : Nat) : Progress :=
  ⟨progress.applied + records.length, Record.highest progress.lastTxid records,
    progress.segments + opened⟩

/-- Of records the rising ones are applied. -/
theorem replayRecords_eq
    (tree : Tree)
    (progress : Progress)
    (records : List Record) :
    replayRecords tree progress records =
      (tree.absorbAll
        ((Record.rising progress.lastTxid records).map Record.operation),
        progress.onward (Record.rising progress.lastTxid records) 0) := by
  induction records generalizing tree progress with
  | nil => rfl
  | cons record rest hypothesis =>
      rw [replayRecords, List.foldl_cons, replayRecord]
      by_cases old : record.txid ≤ progress.lastTxid
      · rw [if_pos old, Record.rising_cons_of_le old]
        exact hypothesis tree progress
      · rw [if_neg old, Record.rising_cons_of_lt (Nat.lt_of_not_le old)]
        refine (hypothesis (tree.absorb record.operation)
          { progress with
            applied := progress.applied + 1, lastTxid := record.txid }).trans ?_
        simp only [Progress.onward, List.map_cons, Tree.absorbAll_cons,
          List.length_cons, Record.highest_cons, Nat.add_assoc, Nat.add_comm 1]

/-- Of lines the records in front of the first fault are replayed. -/
theorem replayLines_eq
    (tree : Tree)
    (progress : Progress)
    (lines : List (Except LogError Record)) :
    replayLines tree progress lines =
      ((replayRecords tree progress (Segment.leading lines)).1,
        (Segment.collect lines).map fun _ =>
          (replayRecords tree progress (Segment.leading lines)).2) := by
  induction lines generalizing tree progress with
  | nil => rfl
  | cons line rest hypothesis =>
      cases line with
      | error error => rfl
      | ok record =>
          have behind := hypothesis (replayRecord tree progress record).1
            (replayRecord tree progress record).2
          rw [replayLines]
          refine behind.trans (Prod.ext rfl ?_)
          rw [Segment.collect]
          cases Segment.collect rest <;> rfl

/-- The spans of the segments that a replay opens. -/
def opened (floor : Nat) (spans : List Span) : List Span :=
  spans.filter fun span => floor < span.last

/-- What is on the lines of the segments that a replay opens. -/
def openedLines
    (disk : Disk)
    (directory : Location)
    (floor : Nat)
    (spans : List Span) :
    List (Except LogError Record) :=
  (opened floor spans).flatMap (Segment.linesAt disk directory)

/-- Of segments the rising records in front of the first fault are applied. -/
theorem replaySpans_eq
    (disk : Disk)
    (directory : Location)
    (floor : Nat)
    (tree : Tree)
    (progress : Progress)
    (spans : List Span) :
    replaySpans disk directory floor tree progress spans =
      (tree.absorbAll ((Record.rising progress.lastTxid
          (Segment.leading (openedLines disk directory floor spans))).map
        Record.operation),
        (Segment.collect (openedLines disk directory floor spans)).map fun _ =>
          progress.onward (Record.rising progress.lastTxid
            (Segment.leading (openedLines disk directory floor spans)))
            (opened floor spans).length) := by
  induction spans generalizing tree progress with
  | nil => rfl
  | cons span rest hypothesis =>
      rw [replaySpans]
      by_cases skipped : span.last ≤ floor
      · have same : opened floor (span :: rest) = opened floor rest :=
          List.filter_cons_of_neg (by simpa using skipped)
        rw [if_pos skipped, openedLines, same]
        exact hypothesis tree progress
      · have isOpened : opened floor (span :: rest) =
            span :: opened floor rest :=
          List.filter_cons_of_pos (by simpa using Nat.lt_of_not_le skipped)
        have lines : openedLines disk directory floor (span :: rest) =
            Segment.linesAt disk directory span ++
              openedLines disk directory floor rest := by
          rw [openedLines, isOpened, List.flatMap_cons, openedLines]
        rw [if_neg skipped, lines, isOpened, Segment.linesAt]
        cases disk.read (Segment.location directory span) with
        | error error => rfl
        | ok content =>
            simp only [replayLines_eq, replayRecords_eq]
            cases collected : Segment.collect (Segment.readLines content) with
            | error error =>
                obtain ⟨sameLeading, sameAnswer⟩ :=
                  Segment.append_of_collect_error collected
                    (openedLines disk directory floor rest)
                rw [sameLeading, sameAnswer]
                rfl
            | ok stored =>
                rw [Segment.collect_eq_ok_iff.mp collected,
                  Segment.leading_map_ok, Segment.leading_map_ok_append,
                  Segment.collect_map_ok_append, Record.rising_append,
                  List.map_append, Tree.absorbAll_append]
                refine (hypothesis _ _).trans (Prod.ext rfl ?_)
                cases Segment.collect
                  (openedLines disk directory floor rest) with
                | error error => rfl
                | ok others =>
                    simp only [Except.map, Progress.onward, List.length_append,
                      Record.highest_append, List.length_cons, Nat.add_assoc,
                      Nat.add_comm 1, Nat.add_zero]

/-! ## Replaying what is on a disk -/

variable {disk : Disk} {directory : Location} {spans : List Span}

/-- The records that a replay from a floor applies. -/
def appliedRecords
    (disk : Disk)
    (directory : Location)
    (floor : Nat)
    (spans : List Span) :
    List Record :=
  Record.rising floor (Segment.leading (openedLines disk directory floor spans))

/-- A replay applies its records, counts them and tells the last of them, unless
it meets a fault. -/
theorem replay_eq
    (listed : Segment.list disk directory = .ok spans)
    (floor : Nat)
    (tree : Tree) :
    replay disk directory floor tree =
      (tree.absorbAll
        ((appliedRecords disk directory floor spans).map Record.operation),
        (Segment.collect (openedLines disk directory floor spans)).map fun _ =>
          ⟨(appliedRecords disk directory floor spans).length,
            Record.highest floor (appliedRecords disk directory floor spans),
            (opened floor spans).length⟩) := by
  simp only [replay, listed, replaySpans_eq, Progress.onward, Nat.zero_add]
  rfl

/-- Each segment that a replay opens can be read. -/
def Readable
    (disk : Disk)
    (directory : Location)
    (floor : Nat)
    (spans : List Span) : Prop :=
  ∀ span ∈ spans, floor < span.last →
    ∃ stored, Segment.read disk directory span = .ok stored

/-- The lines of segments that can be read hold records only. -/
theorem openedLines_of_readable
    {floor : Nat}
    (readable : Readable disk directory floor spans) :
    openedLines disk directory floor spans =
      ((opened floor spans).flatMap fun span =>
        Segment.leading (Segment.linesAt disk directory span)).map .ok := by
  rw [openedLines, List.map_flatMap]
  refine List.flatMap_congr fun span present => ?_
  obtain ⟨among, above⟩ := List.mem_filter.mp present
  obtain ⟨stored, whole⟩ := readable span among (by simpa using above)
  rw [Segment.read_eq_collect] at whole
  rw [Segment.collect_eq_ok_iff.mp whole, Segment.leading_map_ok]

/-- What a replay of listed segments onto a tree does with records. -/
structure Applies
    (disk : Disk)
    (directory : Location)
    (spans : List Span)
    (floor : Nat)
    (tree : Tree)
    (records : List Record) : Prop where
  /-- No transaction id comes twice, and none behind a higher one. -/
  increasing : records.Pairwise fun left right => left.txid < right.txid
  above : ∀ record ∈ records, floor < record.txid
  /-- Each is on a line of a segment that ends above the floor. -/
  stored : ∀ record ∈ records, ∃ span ∈ spans, floor < span.last ∧
    .ok record ∈ Segment.linesAt disk directory span
  /-- The tree is the one before with these and no others, even behind a
  fault. -/
  folded : (replay disk directory floor tree).1 =
    tree.absorbAll (records.map Record.operation)
  /-- Without a fault the replay tells how many there were, and the last of
  them. -/
  answered : Readable disk directory floor spans →
    (replay disk directory floor tree).2 =
      .ok ⟨records.length, Record.highest floor records,
        (opened floor spans).length⟩
  /-- Without a fault no record that is read is above the last of them. -/
  complete : Readable disk directory floor spans →
    ∀ span ∈ spans, floor < span.last →
      ∀ record, .ok record ∈ Segment.linesAt disk directory span →
        record.txid ≤ Record.highest floor records

theorem applies_appliedRecords
    (listed : Segment.list disk directory = .ok spans)
    (floor : Nat)
    (tree : Tree) :
    Applies disk directory spans floor tree
      (appliedRecords disk directory floor spans) where
  increasing := Record.pairwise_rising floor _
  above _ present := Record.lt_of_mem_rising present
  stored record present := by
    have isRead :=
      Segment.mem_of_mem_leading ((Record.rising_sublist floor _).mem present)
    obtain ⟨span, isOpened, onLine⟩ := List.mem_flatMap.mp isRead
    obtain ⟨among, above⟩ := List.mem_filter.mp isOpened
    exact ⟨span, among, by simpa using above, onLine⟩
  folded := by rw [replay_eq listed]
  answered readable := by
    rw [replay_eq listed, openedLines_of_readable readable,
      Segment.collect_map_ok]
    rfl
  complete readable span among above record onLine := by
    have isRead : .ok record ∈ openedLines disk directory floor spans :=
      List.mem_flatMap.mpr
        ⟨span, List.mem_filter.mpr ⟨among, by simpa using above⟩, onLine⟩
    refine Record.txid_le_highest_rising floor ?_
    rw [openedLines_of_readable readable, List.mem_map] at isRead
    obtain ⟨other, present, same⟩ := isRead
    rw [openedLines_of_readable readable, Segment.leading_map_ok,
      ← Except.ok.inj same]
    exact present

end Recovery

/-! ## Segments that lie end to end -/

namespace Log

/-- Segments hold the records of chapters, each of which starts where the one
before it ends. -/
structure Adjoining
    (disk : Disk)
    (directory : Location)
    (chapters : List Chapter) : Prop where
  isRead : ∀ chapter ∈ chapters,
    Segment.read disk directory chapter.span = .ok chapter.records
  adjacent : (chapters.map Chapter.span).IsChain fun left right =>
    right.first = left.last + 1

/-- The records of chapters end to end are numbered on. -/
theorem numbered_of_adjacent
    {chapter : Chapter}
    {rest : List Chapter}
    (adjacent : ((chapter :: rest).map Chapter.span).IsChain fun left right =>
      right.first = left.last + 1) :
    Record.Numbered chapter.span.first
      ((chapter :: rest).flatMap Chapter.records) := by
  induction rest generalizing chapter with
  | nil => simpa using chapter.numbered
  | cons next rest hypothesis =>
      obtain ⟨starts, behind⟩ := List.isChain_cons_cons.mp adjacent
      rw [List.flatMap_cons, Record.numbered_append, chapter.complete, ← starts]
      exact ⟨chapter.numbered, hypothesis behind⟩

/-- The records of chapters end to end are in order. -/
theorem Adjoining.increasing
    {disk : Disk}
    {directory : Location}
    {chapters : List Chapter}
    (adjoining : Adjoining disk directory chapters) :
    (chapters.flatMap Chapter.records).Pairwise fun left right =>
      left.txid < right.txid := by
  cases chapters with
  | nil => exact .nil
  | cons chapter rest =>
      refine List.pairwise_map.mp ?_
      rw [numbered_of_adjacent adjoining.adjacent]
      exact List.pairwise_lt_range'

end Log

namespace Recovery

variable {disk : Disk} {directory : Location} {chapters : List Log.Chapter}

/-- Segments that are read as the records of chapters can be read. -/
theorem readable_of_read
    (isRead : ∀ chapter ∈ chapters,
      Segment.read disk directory chapter.span = .ok chapter.records)
    (floor : Nat) :
    Readable disk directory floor (chapters.map Log.Chapter.span) := by
  intro span present _
  obtain ⟨chapter, among, rfl⟩ := List.mem_map.mp present
  exact ⟨chapter.records, isRead chapter among⟩

/-- No record above the floor is in a chapter that ends below it. -/
theorem filter_flatMap_records (chapters : List Log.Chapter) (floor : Nat) :
    ((chapters.filter fun chapter => floor < chapter.span.last).flatMap
        Log.Chapter.records).filter (fun record => floor < record.txid) =
      (chapters.flatMap Log.Chapter.records).filter fun record =>
        floor < record.txid := by
  induction chapters with
  | nil => rfl
  | cons chapter rest hypothesis =>
      rw [List.flatMap_cons, List.filter_append]
      by_cases isOpened : floor < chapter.span.last
      · rw [List.filter_cons_of_pos (by simpa using isOpened),
          List.flatMap_cons, List.filter_append, hypothesis]
      · have none : (chapter.records.filter fun record => floor < record.txid) =
            [] := by
          refine List.filter_eq_nil_iff.mpr fun record present => ?_
          have covered := Log.Course.covers_of_mem present
          simp only [decide_eq_true_eq]
          omega
        rw [List.filter_cons_of_neg (by simpa using isOpened), hypothesis, none,
          List.nil_append]

/-- Of chapters in order all records above the floor are applied. -/
theorem appliedRecords_of_increasing
    (isRead : ∀ chapter ∈ chapters,
      Segment.read disk directory chapter.span = .ok chapter.records)
    (increasing :
      (chapters.flatMap Log.Chapter.records).Pairwise fun left right =>
      left.txid < right.txid)
    (floor : Nat) :
    appliedRecords disk directory floor (chapters.map Log.Chapter.span) =
      (chapters.flatMap Log.Chapter.records).filter fun record =>
        floor < record.txid := by
  have isOpened : opened floor (chapters.map Log.Chapter.span) =
      (chapters.filter fun chapter => floor < chapter.span.last).map
        Log.Chapter.span :=
    List.filter_map
  have own : ∀ chapter ∈ chapters.filter fun chapter =>
    floor < chapter.span.last,
      Segment.leading (Segment.linesAt disk directory chapter.span) =
        chapter.records := by
    intro chapter present
    have whole := isRead chapter (List.mem_of_mem_filter present)
    rw [Segment.read_eq_collect] at whole
    rw [Segment.collect_eq_ok_iff.mp whole, Segment.leading_map_ok]
  obtain ⟨each, apart⟩ := List.pairwise_flatMap.mp increasing
  have openedIncreasing := List.pairwise_flatMap.mpr
    ⟨fun chapter present => each chapter (List.mem_of_mem_filter present),
      apart.filter fun chapter => floor < chapter.span.last⟩
  rw [appliedRecords, openedLines_of_readable (readable_of_read isRead floor),
    Segment.leading_map_ok, isOpened, List.flatMap_map, List.flatMap_congr own,
    Record.rising_of_increasing openedIncreasing, filter_flatMap_records]

/-- Chapters in order are replayed without a fault. -/
theorem replay_of_increasing
    (isRead : ∀ chapter ∈ chapters,
      Segment.read disk directory chapter.span = .ok chapter.records)
    (increasing :
      (chapters.flatMap Log.Chapter.records).Pairwise fun left right =>
      left.txid < right.txid)
    (listed : Segment.list disk directory = .ok (chapters.map Log.Chapter.span))
    (floor : Nat)
    (tree : Tree)
    {records : List Record}
    (all :
      (chapters.flatMap Log.Chapter.records).filter
        (fun record => floor < record.txid) =
      records) :
    replay disk directory floor tree =
      (tree.absorbAll (records.map Record.operation),
        .ok ⟨records.length, Record.highest floor records,
          (opened floor (chapters.map Log.Chapter.span)).length⟩) := by
  have applies := applies_appliedRecords listed floor tree
  rw [appliedRecords_of_increasing isRead increasing, all] at applies
  exact Prod.ext applies.folded
    (applies.answered (readable_of_read isRead floor))

/-- A replay that is left off at a later floor and taken up again there ends as
one replay does. -/
def Resumes
    (disk : Disk)
    (directory : Location)
    (floor later : Nat)
    (tree : Tree)
    (between : List Record) : Prop :=
  ∃ after once rest,
    replay disk directory floor tree = (after, .ok once) ∧
      replay disk directory later
        (tree.absorbAll (between.map Record.operation)) =
        (after, .ok rest) ∧
      rest.lastTxid = max later once.lastTxid ∧
      once.applied = between.length + rest.applied

theorem resumes_of_adjoining
    (adjoining : Log.Adjoining disk directory chapters)
    (listed : Segment.list disk directory = .ok (chapters.map Log.Chapter.span))
    {floor later : Nat}
    (further : floor ≤ later)
    (tree : Tree) :
    Resumes disk directory floor later tree
      ((chapters.flatMap Log.Chapter.records).filter fun record =>
        floor < record.txid ∧ record.txid ≤ later) := by
  have increasing := adjoining.increasing
  have split := Record.filter_append_filter increasing further
  have whole :=
    replay_of_increasing adjoining.isRead increasing listed floor tree
      split.symm
  rw [List.map_append, Tree.absorbAll_append] at whole
  refine ⟨_, _, _, whole,
    replay_of_increasing adjoining.isRead increasing listed later _ rfl, ?_, ?_⟩
  · refine Record.highest_resumed further (fun record present => ?_)
      fun record present => ?_
    · have bounds := (List.mem_filter.mp present).2
      simp only [decide_eq_true_eq] at bounds
      exact bounds.2
    · simpa using (List.mem_filter.mp present).2
  · rw [List.length_append]

/-- A replay applies the records of a list to the tree, in order, each
transaction id at most once, whatever the segments of the directory hold:
overlaps, gaps, duplicates or records under a false name. Of segments that lie
end to end and hold the records of their names it applies all above the floor,
and may be left off and taken up again at any later floor. -/
theorem replay_inOrder
    {spans : List Span}
    (listed : Segment.list disk directory = .ok spans) :
    (∀ floor tree, Applies disk directory spans floor tree
      (appliedRecords disk directory floor spans)) ∧
    ∀ chapters : List Log.Chapter, chapters.map Log.Chapter.span = spans →
      Log.Adjoining disk directory chapters →
      ∀ floor,
        appliedRecords disk directory floor spans =
          (chapters.flatMap Log.Chapter.records).filter
            (fun record => floor < record.txid) ∧
        ∀ later, floor ≤ later → ∀ tree,
          Resumes disk directory floor later tree
            ((chapters.flatMap Log.Chapter.records).filter fun record =>
              floor < record.txid ∧ record.txid ≤ later) := by
  constructor
  · exact applies_appliedRecords listed
  · rintro chapters rfl adjoining floor
    constructor
    · exact appliedRecords_of_increasing adjoining.isRead adjoining.increasing
        floor
    · exact fun later further => resumes_of_adjoining adjoining listed further

/-- The chapters of segments that lie end to end. -/
def tidyChapters : List Log.Chapter :=
  [⟨⟨1, 2⟩, [⟨1, .makeDirectory "/a"⟩, ⟨2, .createFile "/a/f"⟩], rfl, rfl⟩,
    ⟨⟨3, 3⟩, [⟨3, .makeDirectory "/b"⟩], rfl, rfl⟩]

/-- A disk with such segments, and with others that overlap, one of them under
two names, that leave a gap, and that hold records out of order or of another id
than the name tells. -/
def segmentsDisk : Disk where
  items :=
    [(["messy"], .directory), (["tidy"], .directory),
      (["messy", "7_9.log"],
        .file (Segment.bytes [⟨12, .makeDirectory "/a/c"⟩])),
      (["messy", "01_3.log"], .file (Segment.bytes [⟨9, .createFile "/x"⟩])),
      (["messy", "2_5.log"],
        .file (Segment.bytes
          [⟨3, .createFile "/y"⟩, ⟨5, .createFile "/a"⟩,
            ⟨4, .makeDirectory "/z"⟩])),
      (["messy", "1_3.log"], .file (Segment.bytes [⟨1, .createFile "/w"⟩,
        ⟨2, .makeDirectory "/a"⟩, ⟨3, .makeDirectory "/a/b"⟩]))] ++
    tidyChapters.map fun chapter =>
      (Segment.location ["tidy"] chapter.span,
        .file (Segment.bytes chapter.records))
  clock := 0
  failures _ := none

/-- The spans of the other segments. -/
def messySpans : List Span := [⟨1, 3⟩, ⟨1, 3⟩, ⟨2, 5⟩, ⟨7, 9⟩]

theorem replay_inOrder_segmentsDisk :
    Segment.list segmentsDisk ["messy"] = .ok messySpans ∧
      (appliedRecords segmentsDisk ["messy"] 1 messySpans).map Record.txid =
        [2, 3, 5, 12] ∧
      Applies segmentsDisk ["messy"] messySpans 1 Tree.root
        (appliedRecords segmentsDisk ["messy"] 1 messySpans) ∧
      (replay segmentsDisk ["messy"] 1 Tree.root).2 = .ok ⟨4, 12, 4⟩ ∧
      Resumes segmentsDisk ["tidy"] 0 1 Tree.root
        [⟨1, .makeDirectory "/a"⟩] := by
  have messy : Segment.list segmentsDisk ["messy"] = .ok messySpans := by
    decide +kernel
  have tidy : Segment.list segmentsDisk ["tidy"] =
      .ok (tidyChapters.map Log.Chapter.span) := by decide +kernel
  have adjoining : Log.Adjoining segmentsDisk ["tidy"] tidyChapters :=
    ⟨by decide +kernel, by decide⟩
  obtain ⟨-, resumes⟩ := (replay_inOrder tidy).2 tidyChapters rfl adjoining 0
  exact ⟨messy, by decide +kernel, (replay_inOrder messy).1 1 Tree.root,
    by decide +kernel, resumes 1 (by decide) Tree.root⟩

end Recovery
end NameService
