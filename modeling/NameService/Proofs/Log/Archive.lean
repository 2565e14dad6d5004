import NameService.Proofs.Log.Listing

/-!
# Segments that a log no longer lists

A purge gives a segment up as soon as its file is reported missing, whether it
is or not. So the directory of a log may hold segments that the log does not
list. The log goes on without them, but they are listed again when it is opened
again.
-/

namespace NameService
namespace Log

variable {log : Log} {disk : Disk} {chapters : List Chapter}

/-! ## Other segments listed -/

/-- The same log with other segments listed. -/
def relisted (log : Log) (spans : List Span) : Log :=
  { log with spans := spans }

@[simp] theorem relisted_relisted (log : Log) (spans more : List Span) :
    (log.relisted spans).relisted more = log.relisted more := rfl

@[simp] theorem lastTxid_relisted (log : Log) (spans : List Span) :
    (log.relisted spans).lastTxid = log.lastTxid := rfl

@[simp] theorem directory_relisted (log : Log) (spans : List Span) :
    (log.relisted spans).directory = log.directory := rfl

@[simp] theorem flushedTxid_relisted (log : Log) (spans : List Span) :
    (log.relisted spans).flushedTxid = log.flushedTxid := rfl

@[simp] theorem buffered_relisted (log : Log) (spans : List Span) :
    (log.relisted spans).buffered = log.buffered := rfl

/-- An operation of a log lists new segments behind the others, and does the
same whichever the others are. -/
def Oblivious (operate : Log → Disk → Outcome Log ε α) : Prop :=
  ∀ (log : Log) (disk : Disk) (spans : List Span), ∃ added,
    (operate log disk).state.spans = log.spans ++ added ∧
      operate (log.relisted spans) disk =
        ⟨(operate log disk).disk,
          (operate log disk).state.relisted (spans ++ added),
          (operate log disk).answer⟩

/-- A rotation does not look at the segments. -/
theorem rotate_relisted (log : Log) (spans : List Span) :
    (log.relisted spans).rotate =
      (log.rotate.1.relisted spans, log.rotate.2) := by
  unfold rotate relisted
  split <;> rfl

theorem spans_rotate (log : Log) : log.rotate.1.spans = log.spans := by
  rcases log.rotate_cases with same | ⟨-, moved⟩
  · rw [same]
  · rw [moved]

theorem oblivious_flush : Oblivious Log.flush := by
  intro log disk spans
  unfold Log.flush
  cases isLast : maxTxid? log.sealing with
  | none => exact ⟨[], (List.append_nil _).symm, by simp [relisted, isLast]⟩
  | some last =>
      have sameLast : maxTxid? (log.relisted spans).sealing = some last :=
        isLast
      simp only [sameLast, directory_relisted, flushedTxid_relisted]
      cases outcome : disk.performAll
        (segmentSteps log.directory ⟨Word.next log.flushedTxid, last⟩
          (Segment.bytes log.sealing)) with
      | mk after answer =>
          have sameOutcome : disk.performAll (segmentSteps log.directory
              ⟨Word.next log.flushedTxid, last⟩
              (Segment.bytes (log.relisted spans).sealing)) =
              (after, answer) := outcome
          rw [sameOutcome]
          cases answer with
          | error error =>
              exact ⟨[], (List.append_nil _).symm, by rw [List.append_nil]⟩
          | ok _ => exact ⟨[⟨Word.next log.flushedTxid, last⟩], rfl, rfl⟩

theorem oblivious_roll : Oblivious Log.roll := by
  intro log disk spans
  unfold Log.roll
  rw [rotate_relisted, ← spans_rotate log]
  exact oblivious_flush log.rotate.1 disk spans

theorem oblivious_forceSync : Oblivious Log.forceSync := by
  intro log disk spans
  obtain ⟨added, listed, flushed⟩ := oblivious_flush log disk spans
  unfold Log.forceSync
  simp only [flushed]
  cases (log.flush disk).answer with
  | error error => exact ⟨added, listed, rfl⟩
  | ok _ =>
      simp only [rotate_relisted]
      have rotatedListed := (log.flush disk).state.spans_rotate.trans listed
      cases rotated : (log.flush disk).state.rotate with
      | mk after answer =>
          rw [rotated] at rotatedListed
          cases answer with
          | error error => exact ⟨added, rotatedListed, rfl⟩
          | ok _ =>
              obtain ⟨more, moreListed, flushedAgain⟩ :=
                oblivious_flush after (log.flush disk).disk (spans ++ added)
              refine ⟨added ++ more, ?_, ?_⟩
              · rw [← List.append_assoc, ← rotatedListed]
                exact moreListed
              · rw [← List.append_assoc]
                exact flushedAgain

/-! ## Archives -/

/-- The directory of a log holds the segments of chapters, and the log lists
some of them. -/
structure Archived
    (log : Log)
    (disk : Disk)
    (chapters : List Chapter) : Prop where
  shelved : Shelved (log.relisted (chapters.map Chapter.span)) disk chapters
  /-- The segment files of the directory are those of the chapters. -/
  filed : Filed (log.relisted (chapters.map Chapter.span)) disk
  among : log.spans.Sublist (chapters.map Chapter.span)

/-- A log that lists all segments of its directory. -/
theorem Shelved.archived
    (shelved : Shelved log disk chapters)
    (filed : Filed log disk) :
    Archived log disk chapters := by
  have same : log.relisted (chapters.map Chapter.span) = log := by
    rw [← shelved.listed]
    rfl
  exact ⟨same.symm ▸ shelved, same.symm ▸ filed, shelved.listed ▸ .refl _⟩

/-- Among the segments of its directory a log lists those of some chapters. -/
theorem Archived.listed (archived : Archived log disk chapters) :
    ∃ kept, kept.Sublist chapters ∧ Shelved log disk kept := by
  obtain ⟨kept, fewer, isListed⟩ := List.sublist_map_iff.mp archived.among
  have shelved := archived.shelved
  refine ⟨kept, fewer, isListed, fun chapter present => ?_, ?_,
    shelved.numbered, shelved.complete⟩
  · exact shelved.stored chapter (fewer.mem present)
  · exact shelved.ascending.sublist (fewer.map Chapter.span) (Nat.le_refl _)

/-- An archive does not depend on what its log buffers, as long as the buffers
go on with its segments. -/
theorem Archived.rebuffer
    (archived : Archived log disk chapters)
    {after : Log}
    (directory : after.directory = log.directory)
    (spans : after.spans = log.spans)
    (further : log.flushedTxid ≤ after.flushedTxid)
    (numbered : Record.Numbered (after.flushedTxid + 1) after.buffered)
    (complete : after.flushedTxid + after.buffered.length = after.lastTxid) :
    Archived after disk chapters := by
  have shelved := archived.shelved
  have filed := archived.filed
  refine ⟨⟨rfl, ?_, shelved.ascending.sublist (.refl _) further, numbered,
    complete⟩, ?_, spans.symm ▸ archived.among⟩
  · intro chapter present
    rw [directory_relisted, directory]
    exact shelved.stored chapter present
  · rw [Filed, directory_relisted, directory]
    exact filed

/-- An archive lies on any disk that has the same segments. -/
theorem Archived.on
    (archived : Archived log disk chapters)
    {other : Disk}
    (names : Segment.namesIn other log.directory =
      Segment.namesIn disk log.directory)
    (segments : ∀ span, other.item? (Segment.location log.directory span) =
      disk.item? (Segment.location log.directory span)) :
    Archived log other chapters := by
  refine ⟨{ archived.shelved with stored := fun chapter present => ?_ }, ?_,
    archived.among⟩
  · exact (segments chapter.span).trans
      (archived.shelved.stored chapter present)
  · have filed := archived.filed
    rw [Filed, Segment.Listed, directory_relisted] at filed ⊢
    rwa [names]

/-- The failures of a disk make no difference to the archive on it. -/
theorem Archived.failing
    (archived : Archived log disk chapters)
    (failures : Nat → Option Disk.Failure) :
    Archived log (disk.failing failures) chapters :=
  archived.on rfl fun _ => rfl

/-! ## Writing -/

/-- What moves records of a log towards its segments. -/
inductive Writing
  /-- Seal the active buffer. -/
  | rotate
  /-- Write the sealing buffer to a segment. -/
  | flush
  /-- Rotate and flush. -/
  | roll
  /-- Flush everything buffered. -/
  | forceSync

/-- Carry out a writing. -/
def write (log : Log) (disk : Disk) :
    Writing → Outcome Log LogError (Option Span)
  | .rotate => ⟨disk, log.rotate.1, log.rotate.2.map fun _ => none⟩
  | .flush => log.flush disk
  | .roll => log.roll disk
  | .forceSync => log.forceSync disk

/-- A writing lists new segments behind the others, whichever these are. -/
theorem oblivious_write (writing : Writing) :
    Oblivious fun log disk => log.write disk writing := by
  intro log disk spans
  cases writing with
  | rotate =>
      refine ⟨[], ?_, ?_⟩
      · rw [List.append_nil]
        exact log.spans_rotate
      · rw [List.append_nil]
        simp only [write, rotate_relisted]
  | flush => exact oblivious_flush log disk spans
  | roll => exact oblivious_roll log disk spans
  | forceSync => exact oblivious_forceSync log disk spans

/-- A writing moves records from the buffers to new segments. -/
theorem Shelved.write
    (shelved : Shelved log disk chapters)
    (word : log.lastTxid ≤ Word.max)
    (writing : Writing) :
    Kept log chapters (log.write disk writing) := by
  cases writing with
  | rotate =>
      exact ⟨[], flushes_rotate log, by simpa [Log.write] using shelved.rotate⟩
  | flush => exact shelved.flush word
  | roll => exact shelved.roll word
  | forceSync => exact shelved.forceSync word

/-- A writing files the segments that it writes. -/
theorem Filed.write
    (filed : Filed log disk)
    (shelved : Shelved log disk chapters)
    (word : log.lastTxid ≤ Word.max)
    (writing : Writing) :
    Filed (log.write disk writing).state (log.write disk writing).disk := by
  cases writing with
  | rotate => exact filed.rotate
  | flush => exact filed.flush shelved word
  | roll => exact filed.roll shelved word
  | forceSync => exact filed.forceSync shelved word

/-- A writing touches only files in the directory of the log. -/
theorem item?_write
    (log : Log)
    (disk : Disk)
    (writing : Writing)
    {place : Location}
    (outside : Outside log.directory place) :
    (log.write disk writing).disk.item? place = disk.item? place := by
  cases writing with
  | rotate => rfl
  | flush => exact item?_flush log disk outside
  | roll => exact item?_roll log disk outside
  | forceSync => exact item?_forceSync log disk outside

/-- What every step of the disk keeps is kept by a flush. -/
theorem flush_keeps
    {keeps : Disk → Prop}
    (perform : ∀ disk step, keeps disk → keeps (disk.perform step).1)
    (log : Log)
    {disk : Disk}
    (kept : keeps disk) :
    keeps (log.flush disk).disk := by
  unfold flush
  split
  · exact kept
  · rename_i last _
    have steps := Disk.performAll_keeps perform kept
      (segmentSteps log.directory ⟨Word.next log.flushedTxid, last⟩
        (Segment.bytes log.sealing))
    simp only
    split <;> rename_i outcome <;> rw [outcome] at steps <;> exact steps

/-- What every step of the disk keeps is kept by a writing. -/
theorem write_keeps
    {keeps : Disk → Prop}
    (perform : ∀ disk step, keeps disk → keeps (disk.perform step).1)
    (log : Log)
    {disk : Disk}
    (kept : keeps disk)
    (writing : Writing) :
    keeps (log.write disk writing).disk := by
  cases writing with
  | rotate => exact kept
  | flush => exact flush_keeps perform log kept
  | roll => exact flush_keeps perform log.rotate.1 kept
  | forceSync =>
      have flushed := flush_keeps perform log kept
      simp only [write]
      unfold forceSync
      simp only
      split
      · exact flushed
      · split
        · exact flushed
        · exact flush_keeps perform _ flushed

/-- A writing takes no directory away. -/
theorem retains_write (log : Log) (disk : Disk) (writing : Writing) :
    disk.Retains (log.write disk writing).disk :=
  write_keeps (fun after step kept => kept.trans (after.retains_perform step))
    log disk.retains_refl writing

/-- A writing adds what it flushes to the archive, and lists it behind the other
segments. -/
theorem Archived.write
    (archived : Archived log disk chapters)
    (word : log.lastTxid ≤ Word.max)
    (writing : Writing) :
    ∃ added, Flushes log (log.write disk writing).state added ∧
      (log.write disk writing).state.spans =
        log.spans ++ added.map Chapter.span ∧
      Archived (log.write disk writing).state (log.write disk writing).disk
        (chapters ++ added) := by
  obtain ⟨new, listed, same⟩ :=
    oblivious_write writing log disk (chapters.map Chapter.span)
  simp only at listed same
  have kept := archived.shelved.write word writing
  have filed := archived.filed.write archived.shelved word writing
  rw [same] at kept filed
  obtain ⟨added, flushes, shelved⟩ := kept
  have spans : chapters.map Chapter.span ++ new =
      (chapters ++ added).map Chapter.span :=
    shelved.listed
  obtain rfl : new = added.map Chapter.span := by
    rw [List.map_append] at spans
    exact List.append_cancel_left spans
  rw [spans] at shelved filed
  refine ⟨added,
    ⟨flushes.directory, flushes.lastTxid, flushes.buffered, flushes.tile⟩,
    listed, shelved, filed, ?_⟩
  rw [listed, List.map_append]
  exact archived.among.append (.refl _)

/-! ## Purging -/

/-- A segment is removed, or it is left with all others. -/
theorem removeSegment_cases (disk : Disk) (directory : Location) (span : Span) :
    (∃ after,
      disk.perform (.remove (Segment.location directory span)) =
        (after, .ok ()) ∧
        removeSegment disk directory span = (after, .ok ())) ∨
      (removeSegment disk directory span).1 =
        { disk with clock := disk.clock + 1 } := by
  unfold removeSegment
  cases outcome : disk.perform (.remove (Segment.location directory span)) with
  | mk after answer =>
      cases answer with
      | ok _ => exact .inl ⟨after, rfl, rfl⟩
      | error error =>
          have same := Disk.eq_of_error outcome (by simp)
          right
          cases error <;> exact same

/-- What every step of the disk keeps is kept by a purge. -/
theorem purgeSpans_keeps
    {keeps : Disk → Prop}
    (perform : ∀ disk step, keeps disk → keeps (disk.perform step).1)
    {disk : Disk}
    (kept : keeps disk)
    (directory : Location)
    (txid : Nat)
    (spans : List Span) :
    keeps (purgeSpans disk directory txid spans).1 := by
  induction spans generalizing disk with
  | nil => exact kept
  | cons span rest hypothesis =>
      rw [purgeSpans]
      split
      · exact kept
      · have removed : keeps (removeSegment disk directory span).1 := by
          have one :=
            perform disk (.remove (Segment.location directory span)) kept
          unfold removeSegment
          split <;> rename_i outcome <;> rw [outcome] at one <;> exact one
        split <;> rename_i outcome <;> rw [outcome] at removed
        · exact removed
        · exact hypothesis removed

/-- A purge takes no directory away. -/
theorem retains_purgeSpans
    (disk : Disk)
    (directory : Location)
    (txid : Nat)
    (spans : List Span) :
    disk.Retains (purgeSpans disk directory txid spans).1 :=
  purgeSpans_keeps
    (fun after step kept => kept.trans (after.retains_perform step))
    disk.retains_refl directory txid spans

/-- A purge removed the files of the spans that are gone and left every other
file, and of the spans that were listed it left some that are not gone. -/
structure Purges
    (disk after : Disk)
    (directory : Location)
    (txid : Nat)
    (spans left gone : List Span) : Prop where
  below : ∀ span ∈ gone, span.last ≤ txid
  left : left.Sublist (spans.filter fun span => span ∉ gone)
  names : Segment.namesIn after directory =
    (Segment.namesIn disk directory).filter fun name =>
      name ∉ gone.map Span.fileName
  frame : ∀ place, (∀ span ∈ gone, place ≠ Segment.location directory span) →
    after.item? place = disk.item? place

variable {after : Disk} {directory : Location} {txid : Nat}
  {spans left gone : List Span}

theorem purges_refl
    (disk : Disk)
    (directory : Location)
    (txid : Nat)
    (spans : List Span) :
    Purges disk disk directory txid spans spans [] :=
  ⟨fun _ present => (List.not_mem_nil present).elim, by simp, by simp,
    fun _ _ => rfl⟩

/-- Purging does not depend on the clock. -/
theorem Purges.tick
    {clock : Nat}
    (purges :
      Purges { disk with clock := clock } after directory txid spans left
        gone) :
    Purges disk after directory txid spans left gone :=
  ⟨purges.below, purges.left, purges.names, purges.frame⟩

/-- A span is passed over whose file is left. -/
theorem Purges.pass
    (purges : Purges disk after directory txid spans left gone)
    (span : Span) :
    Purges disk after directory txid (span :: spans) left gone :=
  { purges with
    left := purges.left.trans ((List.sublist_cons_self span spans).filter _) }

/-- A span goes whose file was removed before the others. -/
theorem Purges.remove
    {removed : Disk}
    (purges : Purges removed after directory txid spans left gone)
    {span : Span}
    (sound : span.Sound)
    (below : span.last ≤ txid)
    (isLast : span ∉ spans)
    (done : disk.perform (.remove (Segment.location directory span)) =
      (removed, .ok ())) :
    Purges disk after directory txid (span :: spans) left (span :: gone) := by
  obtain ⟨content, -, rfl⟩ :=
    Disk.makes_of_effect (Disk.effect_of_perform_ok done)
  refine ⟨List.forall_mem_cons.mpr ⟨below, purges.below⟩, ?_, ?_,
    fun place other => ?_⟩
  · have same : ((span :: spans).filter fun other => other ∉ span :: gone) =
        spans.filter fun other => other ∉ gone := by
      rw [List.filter_cons_of_neg (by simp)]
      refine List.filter_congr fun other present => ?_
      simp [ne_of_mem_of_not_mem present isLast]
    rw [same]
    exact purges.left
  · rw [purges.names,
      Segment.namesIn_erase_of_named (Segment.nameIn?_location directory sound),
      List.filter_filter]
    refine List.filter_congr fun name _ => ?_
    simp [Bool.and_comm, bne, beq_eq_decide]
  · obtain ⟨notSpan, notGone⟩ := List.forall_mem_cons.mp other
    exact (purges.frame place notGone).trans (Disk.item?_erase_of_ne notSpan _)

/-- A purge removes some files of spans that end at or below its transaction id,
and goes on listing only spans that it did not remove. -/
theorem purges_purgeSpans
    (disk : Disk)
    (directory : Location)
    (txid : Nat)
    {spans : List Span}
    (sound : ∀ span ∈ spans, span.Sound)
    (distinct : spans.Nodup) :
    ∃ gone,
      Purges disk (purgeSpans disk directory txid spans).1 directory txid spans
        (purgeSpans disk directory txid spans).2.1 gone := by
  induction spans generalizing disk with
  | nil => exact ⟨[], purges_refl disk directory txid []⟩
  | cons span rest hypothesis =>
      obtain ⟨spanSound, restSound⟩ := List.forall_mem_cons.mp sound
      obtain ⟨isLast, restDistinct⟩ := List.nodup_cons.mp distinct
      rw [purgeSpans]
      split
      · exact ⟨[], purges_refl disk directory txid _⟩
      · rename_i covered
        rcases removeSegment_cases disk directory span with
          ⟨removed, done, outcome⟩ | left
        · rw [outcome]
          obtain ⟨gone, purges⟩ := hypothesis removed restSound restDistinct
          exact ⟨span :: gone,
            purges.remove spanSound (Nat.le_of_not_lt covered) isLast done⟩
        · cases outcome : removeSegment disk directory span with
          | mk kept answer =>
              rw [outcome] at left
              obtain rfl : kept = { disk with clock := disk.clock + 1 } := left
              cases answer with
              | error error => exact ⟨[], (purges_refl _ directory txid _).tick⟩
              | ok _ =>
                  obtain ⟨gone, purges⟩ :=
                    hypothesis { disk with clock := disk.clock + 1 } restSound
                      restDistinct
                  exact ⟨gone, (purges.pass span).tick⟩

/-- The files of the segments that are not gone are the ones that are left. -/
theorem Purges.listed
    {others : List Span}
    (purges : Purges disk after directory txid spans left gone)
    (listed : Segment.Listed disk directory others) :
    Segment.Listed after directory (others.filter fun span => span ∉ gone) := by
  have names :
      (others.map Span.fileName).filter
        (fun name => name ∉ gone.map Span.fileName) =
      (others.filter fun span => span ∉ gone).map Span.fileName := by
    rw [List.filter_map]
    refine congrArg _ (List.filter_congr fun span _ => ?_)
    have gone_iff : span.fileName ∈ gone.map Span.fileName ↔ span ∈ gone :=
      List.mem_map_of_injective fun _ _ => Span.fileName_injective
    exact decide_eq_decide.mpr (not_congr gone_iff)
  rw [Segment.Listed, purges.names, ← names]
  exact List.Perm.filter _ listed

/-- A file of a segment that is not gone is left. -/
theorem Purges.item?_eq
    (purges : Purges disk after directory txid spans left gone)
    {span : Span}
    (kept : span ∉ gone) :
    after.item? (Segment.location directory span) =
      disk.item? (Segment.location directory span) :=
  purges.frame _ fun _ isGone same =>
    kept (Segment.location_injective same ▸ isGone)

/-- Spans in order are all different. -/
theorem nodup_of_ascending
    {limit : Nat}
    (ascending : Span.Ascending limit spans) :
    spans.Nodup := by
  refine ascending.apart.imp_of_mem
    fun {left right} isLeft isRight apart same => ?_
  subst same
  have ordered := ascending.ordered left isLeft
  omega

/-- The spans of the chapters that are not gone. -/
theorem map_span_filter (chapters : List Chapter) (gone : List Span) :
    (chapters.filter fun chapter => chapter.span ∉ gone).map Chapter.span =
      (chapters.map Chapter.span).filter fun span => span ∉ gone := by
  rw [List.filter_map]
  rfl

/-- A purge takes from the archive only segments that end at or below its
transaction id. -/
theorem Archived.purgeThrough
    (archived : Archived log disk chapters)
    (word : log.flushedTxid ≤ Word.max)
    (txid : Nat) :
    ∃ gone : List Span, (∀ span ∈ gone, span.last ≤ txid) ∧
      Archived (log.purgeThrough disk txid).state
        (log.purgeThrough disk txid).disk
        (chapters.filter fun chapter => chapter.span ∉ gone) := by
  have shelved := archived.shelved
  have ascending := shelved.ascending
  have sound : ∀ span ∈ log.spans, span.Sound := fun span present =>
    Segment.sound_of_ascending ascending word (archived.among.mem present)
  obtain ⟨gone, purges⟩ := purges_purgeSpans disk log.directory txid sound
    ((nodup_of_ascending ascending).sublist archived.among)
  have state : (log.purgeThrough disk txid).state =
      log.relisted (purgeSpans disk log.directory txid log.spans).2.1 := rfl
  have spans := map_span_filter chapters gone
  refine ⟨gone, purges.below,
    ⟨rfl, fun chapter present => ?_, ?_, shelved.numbered, shelved.complete⟩,
    ?_, ?_⟩
  · obtain ⟨isChapter, kept⟩ := List.mem_filter.mp present
    exact (purges.item?_eq (of_decide_eq_true kept)).trans
      (shelved.stored chapter isChapter)
  · rw [spans]
    exact ascending.sublist List.filter_sublist (Nat.le_refl _)
  · rw [Filed, state, relisted_relisted, spans]
    exact purges.listed archived.filed
  · rw [spans]
    exact purges.left.trans (archived.among.filter _)

end Log
end NameService
