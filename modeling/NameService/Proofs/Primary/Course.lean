import NameService.Proofs.Primary.Start
import NameService.Proofs.Runs

/-!
# What outlives a Primary

A Primary is started on an empty data directory and goes through any run of
mutations, flushes, checkpoints and restarts, while steps of the disk may fail.
Every restart succeeds, and brings back the history up to the larger of the
checkpoint id and the last flushed transaction id; all of it, if the Primary was
closed first.
-/

namespace NameService

namespace Primary

/-! ## Closing -/

/-- Closing flushes the log and saves the checkpoint id again, whatever comes of
it. -/
theorem close_eq
    (primary : Primary)
    (disk : Disk) :
    let flushed := primary.catalog.log.forceSync disk
    (primary.close disk).disk =
        (primary.settings.checkpointStore.save flushed.disk
          primary.checkpointTxid).1 ∧
      (primary.close disk).state =
        { primary with
          catalog :=
            { primary.catalog with log := flushed.state, running := false }
          closed := true } ∧
      ((primary.close disk).answer = .ok () →
        ∃ span, flushed.answer = .ok span) := by
  intro flushed
  unfold close
  simp only [Catalog.withLog, Outcome.mapState, Catalog.stop]
  cases isFlushed : (primary.catalog.log.forceSync disk).answer with
  | error cause => exact ⟨rfl, rfl, fun done => by cases done⟩
  | ok span =>
      cases saved :
        primary.settings.checkpointStore.save flushed.disk
          primary.checkpointTxid with
      | mk after answer =>
          cases answer with
          | error cause => exact ⟨rfl, rfl, fun _ => ⟨span, rfl⟩⟩
          | ok _ => exact ⟨rfl, rfl, fun _ => ⟨span, rfl⟩⟩

/-! ## Reports -/

/-- What comes of the report of a transaction id. -/
inductive Settles (primary : Primary) (disk : Disk) (txid : Nat) :
    Outcome Primary ServiceError Nat → Prop
  /-- The checkpoint id in force covers it already. -/
  | known (covered : txid ≤ primary.checkpointTxid) :
      Settles primary disk txid ⟨disk, primary, .ok primary.checkpointTxid⟩
  /-- It is beyond the log. -/
  | ahead
      (above : primary.checkpointTxid < txid)
      (beyond : primary.catalog.appliedTxid < txid) :
      Settles primary disk txid
        ⟨disk, primary,
          .error (.input (.checkpointAhead txid primary.catalog.appliedTxid))⟩
  /-- It cannot be saved. -/
  | unsaved {after : Disk} {cause : FileError}
      (above : primary.checkpointTxid < txid)
      (within : txid ≤ primary.catalog.appliedTxid)
      (failed : primary.settings.checkpointStore.save disk txid =
        (after, .error cause)) :
      Settles primary disk txid ⟨after, primary, .error (.file cause)⟩
  /-- It is saved, and the segments stay. -/
  | saved {after : Disk}
      (above : primary.checkpointTxid < txid)
      (within : txid ≤ primary.catalog.appliedTxid)
      (isSaved : primary.settings.checkpointStore.save disk txid =
        (after, .ok ())) :
      Settles primary disk txid
        ⟨after, { primary with checkpointTxid := txid }, .ok txid⟩
  /-- It is saved, and the segments that it covers go, until one cannot be
  deleted. -/
  | purged {after : Disk}
      (above : primary.checkpointTxid < txid)
      (within : txid ≤ primary.catalog.appliedTxid)
      (isSaved : primary.settings.checkpointStore.save disk txid =
        (after, .ok ())) :
      Settles primary disk txid
        ⟨(primary.catalog.log.purgeThrough after txid).disk,
          { primary with
            checkpointTxid := txid
            catalog := { primary.catalog with
              log := (primary.catalog.log.purgeThrough after txid).state } },
          match (primary.catalog.log.purgeThrough after txid).answer with
          | .ok _ => .ok txid
          | .error cause => .error (.log cause)⟩

theorem settles_updateCheckpoint
    (primary : Primary)
    (disk : Disk)
    (txid : Nat) :
    Settles primary disk txid (primary.updateCheckpoint disk txid) := by
  rw [updateCheckpoint]
  split
  · rename_i covered
    exact .known covered
  · rename_i above
    split
    · rename_i beyond
      exact .ahead (Nat.lt_of_not_le above) beyond
    · rename_i within
      cases outcome : primary.settings.checkpointStore.save disk txid with
      | mk after answer =>
          cases answer with
          | error cause =>
              exact .unsaved (Nat.lt_of_not_le above) (Nat.le_of_not_lt within)
                outcome
          | ok _ =>
              simp only
              split
              · exact .purged (Nat.lt_of_not_le above) (Nat.le_of_not_lt within)
                  outcome
              · exact .saved (Nat.lt_of_not_le above) (Nat.le_of_not_lt within)
                  outcome

/-- A report leaves the checkpoint id and the disk alone, or fails to save the
new id, or puts it in force and purges at most. -/
theorem updateCheckpoint_cases
    (primary : Primary)
    (disk : Disk)
    (txid : Nat) :
    let reported := primary.updateCheckpoint disk txid
    (reported.disk = disk ∧ reported.state = primary) ∨
      (reported.state = primary ∧ ∃ error,
        primary.settings.checkpointStore.save disk txid =
          (reported.disk, .error error)) ∨
      primary.checkpointTxid < txid ∧ txid ≤ primary.catalog.appliedTxid ∧
      ∃ saved,
        primary.settings.checkpointStore.save disk txid = (saved, .ok ()) ∧
        ((reported.disk = saved ∧
          reported.state = { primary with checkpointTxid := txid }) ∨
          reported.disk = (primary.catalog.log.purgeThrough saved txid).disk ∧
            reported.state = { primary with
              checkpointTxid := txid
              catalog := { primary.catalog with
                log := (primary.catalog.log.purgeThrough saved txid).state }
                }) := by
  have settles := primary.settles_updateCheckpoint disk txid
  generalize primary.updateCheckpoint disk txid = reported at settles
  cases settles with
  | known covered => exact .inl ⟨rfl, rfl⟩
  | ahead above beyond => exact .inl ⟨rfl, rfl⟩
  | unsaved above within failed => exact .inr (.inl ⟨rfl, _, failed⟩)
  | saved above within isSaved =>
      exact .inr (.inr ⟨above, within, _, isSaved, .inl ⟨rfl, rfl⟩⟩)
  | purged above within isSaved =>
      exact .inr (.inr ⟨above, within, _, isSaved, .inr ⟨rfl, rfl⟩⟩)

/-! ## Events -/

/-- Carry out a mutation that a client asks for. -/
def mutate (primary : Primary) : Operation → Primary × Except ServiceError Bool
  | .makeDirectory path => primary.makeDirectory path
  | .createFile path => primary.createFile path

/-- A mutation changes the catalog only. -/
theorem mutate_eq (primary : Primary) (operation : Operation) :
    primary.mutate operation =
      ({ primary with catalog := (primary.catalog.mutate operation).1 },
        (primary.catalog.mutate operation).2) := by
  cases operation <;> rfl

/-- The transaction id up to which the history of a Primary outlives it. -/
def durableTxid (primary : Primary) : Nat :=
  max primary.checkpointTxid primary.catalog.log.flushedTxid

/-- What happens to a Primary. Failures are those of the steps of the disk that
it takes. -/
inductive Event
  /-- A client asks for a mutation. -/
  | mutate (operation : Operation)
  /-- The log rotates and flushes. -/
  | roll (failures : Nat → Option Disk.Failure)
  /-- The log flushes everything. -/
  | forceSync (failures : Nat → Option Disk.Failure)
  /-- A Backup uploads the image of the tree after so many mutations of the
  history and, once that is acknowledged, reports the checkpoint. -/
  | checkpoint (count : Nat) (failures : Nat → Option Disk.Failure)
  /-- The process is dropped, and a new one is started. -/
  | crash
  /-- The process is closed, and a new one is started. -/
  | close (failures : Nat → Option Disk.Failure)

/-- What a Primary has come to, and the history of its mutations. -/
structure Course where
  disk : Disk
  primary : Primary
  /-- The mutations that were logged, as far as they were not lost. -/
  history : List Operation

namespace Course

/-- Start a new process, which is to bring back so many mutations. -/
def restart (course : Course) (txid : Nat) : Except ServiceError Course :=
  match openAt course.disk course.primary.settings with
  | (_, .error cause) => .error cause
  | (disk, .ok primary) => .ok ⟨disk, primary, course.history.take txid⟩

/-- Carry out an operation of the log on a disk with failures. -/
def withLog
    (course : Course)
    (failures : Nat → Option Disk.Failure)
    (operate : Log → Disk → Outcome Log LogError α) : Course :=
  let outcome := course.primary.catalog.withLog
    (operate course.primary.catalog.log (course.disk.failing failures))
  { course with
    disk := outcome.disk.mended,
    primary := { course.primary with catalog := outcome.state } }

/-- Upload an image and report the checkpoint if it was acknowledged. -/
def upload
    (course : Course)
    (count : Nat)
    (content : Bytes)
    (failures : Nat → Option Disk.Failure) : Course :=
  let sent :=
    Remote.uploadImage content (course.disk.failing failures)
      (some course.primary)
  match sent.answer with
  | .error _ => { course with disk := sent.disk.mended }
  | .ok () =>
      let reported := course.primary.updateCheckpoint sent.disk.mended count
      { course with disk := reported.disk.mended, primary := reported.state }

/-- Close the process, and how many mutations a new one is to bring back. -/
def close (course : Course) (failures : Nat → Option Disk.Failure) :
    Course × Nat :=
  let closed := course.primary.close (course.disk.failing failures)
  (⟨closed.disk.mended, closed.state, course.history⟩,
    match closed.answer with
    | .ok () => course.history.length
    | .error _ => closed.state.durableTxid)

/-- What a course is after one more event. An image is only uploaded of what was
applied, and if its length is a word. -/
def step (course : Course) : Event → Except ServiceError Course
  | .mutate operation =>
      let primary := (course.primary.mutate operation).1
      .ok { course with
        primary := primary
        history :=
          if course.primary.catalog.appliedTxid <
            primary.catalog.appliedTxid then
            course.history ++ [operation]
          else course.history }
  | .roll failures => .ok (course.withLog failures Log.roll)
  | .forceSync failures => .ok (course.withLog failures Log.forceSync)
  | .checkpoint count failures =>
      let content := Image.encode count (Tree.ofHistory course.history count)
      if count ≤ course.primary.catalog.appliedTxid ∧
        content.length ≤ Word.max then
        .ok (course.upload count content failures)
      else .ok course
  | .crash => course.restart course.primary.durableTxid
  | .close failures =>
      let (closed, txid) := course.close failures
      closed.restart txid

/-- What a course is after a run of events. -/
def run (course : Course) (events : List Event) : Except ServiceError Course :=
  events.foldlM step course

/-! ## The invariant -/

/-- The data directory and the log stand for the history, and the tree is that
of the history. -/
structure Sustained (settings : Settings) (course : Course) : Prop where
  reliable : course.disk.Reliable
  configured : course.primary.settings = settings
  directory : course.primary.catalog.log.directory = settings.editsLocation
  tree : course.primary.catalog.tree =
    Tree.ofHistory course.history course.history.length
  stored :
    Stored settings course.disk course.history course.primary.checkpointTxid
  logged : ∃ chapters,
    Logged course.primary.catalog.log course.disk course.history
      course.primary.checkpointTxid chapters

variable {settings : Settings} {course : Course}

/-- A Primary has applied its history. -/
theorem Sustained.appliedTxid (sustained : course.Sustained settings) :
    course.primary.catalog.appliedTxid = course.history.length := by
  obtain ⟨chapters, logged⟩ := sustained.logged
  exact logged.whole

/-- What outlives a Primary is part of its history. -/
theorem Sustained.durableTxid_le (sustained : course.Sustained settings) :
    course.primary.durableTxid ≤ course.history.length := by
  obtain ⟨chapters, logged⟩ := sustained.logged
  have complete := logged.shelved.complete
  have whole := logged.whole
  have bounded := sustained.stored.bounded
  rw [durableTxid]
  omega

/-- Another disk that stands for the history sustains it as well. -/
theorem Sustained.on
    (sustained : course.Sustained settings)
    {disk : Disk}
    (stored : Stored settings disk course.history course.primary.checkpointTxid)
    {chapters : List Log.Chapter}
    (logged : Logged course.primary.catalog.log disk course.history
      course.primary.checkpointTxid chapters) :
    ({ course with disk := disk.mended }).Sustained settings :=
  ⟨Disk.reliable_mended disk, sustained.configured, sustained.directory,
    sustained.tree, stored.failing _, chapters, logged.failing _⟩

/-- A mutation goes on with the history if it is logged. -/
theorem Sustained.mutate
    (sustained : course.Sustained settings)
    (room : course.history.length < Word.max)
    (operation : Operation) :
    ∃ after, course.step (.mutate operation) = .ok after ∧
      after.Sustained settings ∧
      after.history.length ≤ course.history.length + 1 := by
  refine ⟨_, rfl, ?_⟩
  rw [mutate_eq]
  rcases Catalog.mutate_cases course.primary.catalog operation with
    same | ⟨tree, made, applied, logged⟩
  · simp only [same, Nat.lt_irrefl, if_false]
    exact ⟨sustained, Nat.le_succ _⟩
  · obtain ⟨chapters, before⟩ := sustained.logged
    have next := Log.lastTxid_append (before.whole ▸ room) operation
    have grows : course.primary.catalog.appliedTxid <
        (course.primary.catalog.mutate operation).1.appliedTxid := by
      rw [logged]
      exact Nat.lt_of_lt_of_eq (Nat.lt_succ_self _) next.symm
    simp only [if_pos grows]
    rw [logged]
    refine ⟨⟨sustained.reliable, sustained.configured, sustained.directory, ?_,
      sustained.stored.append operation, chapters,
      before.append room operation⟩, by simp⟩
    simp only
    rw [List.length_append, List.length_singleton, Tree.ofHistory_last,
      ← sustained.tree, Tree.absorb, applied]

/-! ## Flushing -/

/-- An operation that flushes the log leaves the history as it is. -/
theorem Sustained.withLog
    (sustained : course.Sustained settings)
    (word : course.history.length ≤ Word.max)
    (failures : Nat → Option Disk.Failure)
    {operate : Log → Disk → Outcome Log LogError (Option Span)}
    (keeps : ∀ log disk chapters, Log.Shelved log disk chapters →
      log.lastTxid ≤ Word.max →
      Log.Kept log chapters (operate log disk))
    (files : ∀ log disk chapters, Log.Filed log disk →
      Log.Shelved log disk chapters →
      log.lastTxid ≤ Word.max →
      Log.Filed (operate log disk).state (operate log disk).disk)
    (frames : ∀ (log : Log) (disk : Disk) (place : Location),
      Log.Outside log.directory place →
      (operate log disk).disk.item? place = disk.item? place) :
    (course.withLog failures operate).Sustained settings := by
  obtain ⟨chapters, before⟩ := sustained.logged
  have logged := before.failing failures
  have logWord := logged.whole ▸ word
  have kept := keeps _ _ _ logged.shelved logWord
  have filed := files _ _ _ logged.filed logged.shelved logWord
  obtain ⟨after, isLogged⟩ := logged.kept kept filed
  obtain ⟨added, flushes, -⟩ := kept
  refine ⟨Disk.reliable_mended _, sustained.configured,
    flushes.directory.trans sustained.directory, sustained.tree, ?_, after,
    isLogged.failing _⟩
  refine ((sustained.stored.failing failures).frame fun place outside =>
    ?_).failing _
  exact frames _ _ _ (sustained.directory ▸ outside)

theorem Sustained.roll
    (sustained : course.Sustained settings)
    (word : course.history.length ≤ Word.max)
    (failures : Nat → Option Disk.Failure) :
    (course.withLog failures Log.roll).Sustained settings :=
  sustained.withLog word failures (fun _ _ _ shelved => shelved.roll)
    (fun _ _ _ filed shelved => filed.roll shelved)
    (fun log disk _ => Log.item?_roll log disk)

theorem Sustained.forceSync
    (sustained : course.Sustained settings)
    (word : course.history.length ≤ Word.max)
    (failures : Nat → Option Disk.Failure) :
    (course.withLog failures Log.forceSync).Sustained settings :=
  sustained.withLog word failures (fun _ _ _ shelved => shelved.forceSync)
    (fun _ _ _ filed shelved => filed.forceSync shelved)
    (fun log disk _ => Log.item?_forceSync log disk)

/-! ## Checkpoints -/

/-- A checkpoint that is reported once its image stands becomes the one that the
data directory stands for. -/
theorem Sustained.updateCheckpoint
    (sustained : course.Sustained settings)
    (word : course.history.length ≤ Word.max)
    {count : Nat}
    (later : course.primary.checkpointTxid ≤ count)
    (bounded : count ≤ course.history.length)
    {disk : Disk}
    (reliable : disk.Reliable)
    (housed : Housed settings disk course.primary.checkpointTxid)
    (fits : (Image.encode count (Tree.ofHistory course.history count)).length ≤
      Word.max)
    (image : disk.item? settings.imageLocation =
      some (.file (Image.encode count (Tree.ofHistory course.history count))))
    {chapters : List Log.Chapter}
    (logged :
      Logged course.primary.catalog.log disk course.history count chapters) :
    ({ course with
      disk := (course.primary.updateCheckpoint disk count).disk.mended
      primary := (course.primary.updateCheckpoint disk count).state }).Sustained
      settings := by
  unfold Primary.updateCheckpoint
  split
  · rename_i reached
    obtain rfl : count = course.primary.checkpointTxid :=
      Nat.le_antisymm reached later
    exact sustained.on ⟨housed, .inr ⟨fits, image⟩, bounded⟩ logged
  · obtain ⟨saved, isSaved⟩ := housed.save_succeeds reliable count
    obtain ⟨savedHoused, sameImage⟩ :=
      housed.save isSaved (Checkpoint.Store.keeps_of_save isSaved)
    have stored : Stored settings saved course.history count :=
      ⟨savedHoused, .inr ⟨fits, sameImage.trans image⟩, bounded⟩
    have savedReliable : saved.Reliable := reliable.of_performAll isSaved
    have savedLogged := logged.save sustained.directory isSaved
    have applied : ¬ course.primary.catalog.appliedTxid < count := by
      rw [sustained.appliedTxid]
      omega
    rw [if_neg applied, sustained.configured, isSaved]
    simp only
    split
    · obtain ⟨kept, purged⟩ := savedLogged.purgeThrough savedReliable word
      refine ⟨Disk.reliable_mended _, rfl, sustained.directory, sustained.tree,
        ?_, kept, purged.failing _⟩
      refine (stored.frame fun place outside => ?_).failing _
      exact Log.item?_purgeThrough _ _ _ (sustained.directory ▸ outside)
    · exact ⟨Disk.reliable_mended _, rfl, sustained.directory, sustained.tree,
        stored.failing _, chapters, savedLogged.failing _⟩

theorem history_upload
    (course : Course)
    (count : Nat)
    (content : Bytes)
    (failures : Nat → Option Disk.Failure) :
    (course.upload count content failures).history = course.history := by
  unfold Course.upload
  simp only
  split <;> rfl

/-- An upload, acknowledged and reported or not, leaves the history as it is. -/
theorem Sustained.upload
    (sustained : course.Sustained settings)
    (word : course.history.length ≤ Word.max)
    {count : Nat}
    (bounded : count ≤ course.history.length)
    (fits : (Image.encode count (Tree.ofHistory course.history count)).length ≤
      Word.max)
    (failures : Nat → Option Disk.Failure) :
    (course.upload count
      (Image.encode count (Tree.ofHistory course.history count))
      failures).Sustained settings := by
  obtain ⟨chapters, before⟩ := sustained.logged
  have stored := sustained.stored.failing failures
  have logged := before.failing failures
  unfold Course.upload
  simp only
  rcases Remote.uploadImage_cases fits (course.disk.failing failures)
    course.primary with
    ⟨answer, ⟨txid, checked⟩, replaced⟩ | ⟨⟨cause, answer⟩, left⟩
  · rw [answer]
    rw [sustained.configured] at checked replaced
    have decoded := Image.decode_encode (Nat.le_trans bounded word)
      (Tree.wellFormed_ofHistory course.history count) (Tree.kind_ofHistory _ _)
      (Tree.name_ofHistory _ _)
        (Nat.le_trans (Image.size_le_length_encode count _) fits)
    have loaded := stored.checkpoint.load (Nat.le_trans stored.bounded word)
    have later : course.primary.checkpointTxid ≤ count :=
      Upload.floor_le_of_check decoded loaded checked
    have image := Disk.item?_replaced replaced
    have housed := stored.toHoused.replace_image replaced
    have replacedLogged :=
      (logged.replace_image sustained.directory replaced).raise later
    exact sustained.updateCheckpoint word later bounded (Disk.reliable_mended _)
      (housed.failing _) fits image (replacedLogged.failing _)
  · rw [answer]
    rw [sustained.configured] at left
    rcases left with same | ⟨error, failed⟩
    · rw [same]
      exact sustained.on stored logged
    · exact sustained.on (stored.replace_image_error failed)
        (logged.replace_image sustained.directory failed)

/-! ## Restarts -/

/-- Closing leaves the history as it is. If it succeeds, all of it outlives the
Primary. -/
theorem Sustained.close
    (sustained : course.Sustained settings)
    (word : course.history.length ≤ Word.max)
    (failures : Nat → Option Disk.Failure) :
    (course.close failures).1.Sustained settings ∧
      (course.close failures).2 =
        (course.close failures).1.primary.durableTxid := by
  have flushed := sustained.forceSync word failures
  obtain ⟨chapters, before⟩ := flushed.logged
  let outcome :=
    course.primary.catalog.log.forceSync (course.disk.failing failures)
  have logged : Logged outcome.state outcome.disk course.history
      course.primary.checkpointTxid chapters :=
    before.failing outcome.disk.failures
  have stored :
      Stored settings outcome.disk course.history
        course.primary.checkpointTxid :=
    flushed.stored.failing outcome.disk.failures
  obtain ⟨disk, state, answered⟩ :=
    close_eq course.primary (course.disk.failing failures)
  rw [sustained.configured] at disk
  cases saved :
    settings.checkpointStore.save outcome.disk
      course.primary.checkpointTxid with
  | mk after answer =>
      have savedStored := stored.save_again saved
      have savedLogged := logged.save flushed.directory saved
      rw [saved] at disk
      have closed : (course.close failures).1 =
          ⟨after.mended, { course.primary with
          catalog :=
            { course.primary.catalog with
              log := outcome.state, running := false }
          closed := true }, course.history⟩ := by
        rw [Course.close, disk, state]
      constructor
      · rw [closed]
        exact ⟨Disk.reliable_mended _, sustained.configured, flushed.directory,
          sustained.tree, savedStored.failing _, chapters,
          savedLogged.failing _⟩
      · rw [Course.close]
        simp only
        split
        · rename_i done
          obtain ⟨span, isFlushed⟩ := answered done
          have empty : outcome.state.buffered = [] :=
            Log.buffered_forceSync_of_ok isFlushed
          have complete := logged.shelved.complete
          have whole := logged.whole
          have bounded := stored.bounded
          rw [empty, List.length_nil] at complete
          rw [state]
          show course.history.length =
            max course.primary.checkpointTxid outcome.state.flushedTxid
          omega
        · rfl

/-- A new process brings back what outlives the Primary. -/
theorem Sustained.restart
    (sustained : course.Sustained settings)
    (word : course.history.length ≤ Word.max) :
    ∃ after, course.restart course.primary.durableTxid = .ok after ∧
      after.Sustained settings ∧
      after.history = course.history.take course.primary.durableTxid := by
  obtain ⟨chapters, logged⟩ := sustained.logged
  have bounded := sustained.durableTxid_le
  have opened :=
    openAt_of_stored sustained.stored logged sustained.directory word
  have length : (course.history.take course.primary.durableTxid).length =
      course.primary.durableTxid := by
    rw [List.length_take]
    omega
  rw [Course.restart, sustained.configured, opened]
  refine ⟨_, rfl, ⟨sustained.reliable, rfl, rfl, ?_,
    sustained.stored.take (Nat.le_max_left _ _), chapters, ?_⟩, rfl⟩
  · rw [length, Tree.ofHistory_take _ (Nat.le_refl _)]
    rfl
  · have reopened :=
      logged.reopen sustained.stored.bounded rfl settings.segmentSize
    rw [sustained.directory] at reopened
    exact reopened

/-! ## Runs -/

/-- Every event goes through and sustains the history, which grows by at most
one mutation. -/
theorem Sustained.step
    (sustained : course.Sustained settings)
    (room : course.history.length < Word.max)
    (event : Event) :
    ∃ after, course.step event = .ok after ∧
      after.Sustained settings ∧
      after.history.length ≤ course.history.length + 1 := by
  have word := Nat.le_of_lt room
  cases event with
  | mutate operation => exact sustained.mutate room operation
  | roll failures => exact ⟨_, rfl, sustained.roll word failures, Nat.le_succ _⟩
  | forceSync failures =>
      exact ⟨_, rfl, sustained.forceSync word failures, Nat.le_succ _⟩
  | checkpoint count failures =>
      rw [Course.step]
      split
      · rename_i allowed
        obtain ⟨bounded, fits⟩ := allowed
        rw [sustained.appliedTxid] at bounded
        refine ⟨_, rfl, sustained.upload word bounded fits failures, ?_⟩
        rw [history_upload]
        exact Nat.le_succ _
      · exact ⟨_, rfl, sustained, Nat.le_succ _⟩
  | crash =>
      obtain ⟨after, restarted, stillSustained, history⟩ :=
        sustained.restart word
      refine ⟨after, restarted, stillSustained, ?_⟩
      rw [history, List.length_take]
      omega
  | close failures =>
      obtain ⟨closed, txid⟩ := sustained.close word failures
      obtain ⟨after, restarted, stillSustained, history⟩ := closed.restart word
      refine ⟨after, ?_, stillSustained, ?_⟩
      · rw [← restarted, ← txid]
        rfl
      · rw [history, List.length_take]
        exact Nat.le_succ_of_le (Nat.min_le_right _ _)

/-- Every run of events goes through and sustains the history. -/
theorem Sustained.run
    (sustained : course.Sustained settings)
    (events : List Event)
    (word : course.history.length + events.length ≤ Word.max) :
    ∃ after, course.run events = .ok after ∧
      after.Sustained settings ∧
      after.history.length ≤ course.history.length + events.length :=
  foldlM_of_steps Sustained.step sustained events word

end Course

/-- Start a Primary and let a run of events happen to it. -/
def start (disk : Disk) (settings : Settings) (events : List Event) :
    Except ServiceError Course :=
  match openAt disk settings with
  | (_, .error cause) => .error cause
  | (disk, .ok primary) => Course.run ⟨disk, primary, []⟩ events

/-- A Primary was opened with the tree of so many mutations of a history. -/
def Serves
    (outcome : Disk × Except ServiceError Primary)
    (history : List Operation)
    (txid : Nat) : Prop :=
  ∃ primary, outcome.2 = .ok primary ∧
    primary.catalog.tree = Tree.ofHistory history txid ∧
    primary.catalog.appliedTxid = txid

namespace Course

/-- The history of a Primary is served, and outlives it as far as it was flushed
or covered by a checkpoint. -/
structure Durable (settings : Settings) (course : Course) : Prop where
  /-- The Primary serves the whole history. -/
  served : course.primary.catalog.tree =
    Tree.ofHistory course.history course.history.length ∧
    course.primary.catalog.appliedTxid = course.history.length
  /-- What outlives the Primary is part of the history. -/
  bounded : course.primary.durableTxid ≤ course.history.length
  /-- After a crash the larger of the checkpoint id and the last flushed
  transaction id is recovered. -/
  crashed : Serves (openAt course.disk settings) course.history
    (max course.primary.checkpointTxid course.primary.catalog.log.flushedTxid)
  /-- After a close that succeeds the whole history is recovered, after one that
  fails as much as after a crash. -/
  closed : ∀ failures,
    let closed := course.primary.close (course.disk.failing failures)
    Serves (openAt closed.disk.mended settings) course.history
      (match closed.answer with
      | .ok () => course.history.length
      | .error _ =>
          max closed.state.checkpointTxid closed.state.catalog.log.flushedTxid)

variable {settings : Settings} {course : Course}

/-- What a new process serves. -/
theorem Sustained.serves
    (sustained : course.Sustained settings)
    (word : course.history.length ≤ Word.max) :
    Serves (openAt course.disk settings) course.history
      course.primary.durableTxid := by
  obtain ⟨chapters, logged⟩ := sustained.logged
  rw [openAt_of_stored sustained.stored logged sustained.directory word]
  exact ⟨_, rfl, rfl, rfl⟩

/-- A history that is sustained is durable. -/
theorem Sustained.durable
    (sustained : course.Sustained settings)
    (word : course.history.length ≤ Word.max) :
    course.Durable settings := by
  refine ⟨⟨sustained.tree, sustained.appliedTxid⟩, sustained.durableTxid_le,
    sustained.serves word, fun failures => ?_⟩
  obtain ⟨closed, txid⟩ := sustained.close word failures
  have serves := closed.serves word
  rw [← txid] at serves
  exact serves

end Course

/-- A Primary that was opened on an empty data directory sustains its empty
history. -/
theorem sustained_start
    {disk : Disk}
    {settings : Settings}
    (reliable : disk.Reliable)
    (vacant : disk.Vacant settings.home) :
    Course.Sustained settings
      ⟨started disk settings, recovered settings [] [] 0 0, []⟩ :=
  ⟨reliable, rfl, rfl, rfl, stored_started vacant, [], logged_started vacant⟩

/-- A Primary that is started on an empty data directory goes through every run
of mutations, flushes, checkpoints and restarts, whatever steps of its flushes,
its uploads and its closes fail. Every restart succeeds and the history is
durable, as long as the number of events is a word. -/
theorem start_durable
    {disk : Disk}
    {settings : Settings}
    (reliable : disk.Reliable)
    (vacant : disk.Vacant settings.home)
    (events : List Event)
    (word : events.length ≤ Word.max) :
    ∃ course, start disk settings events = .ok course ∧
      course.Durable settings := by
  obtain ⟨course, isRun, sustained, bounded⟩ :=
    (sustained_start reliable vacant).run events (by simpa using word)
  refine ⟨course, ?_, sustained.durable ?_⟩
  · rw [start, openAt_of_vacant reliable vacant]
    exact isRun
  · simp only [List.length_nil] at bounded
    omega

/-- A checkpoint ahead of the flushed log, a crash behind it, a flush that fails
before another crash, and a close. -/
theorem start_durable_interrupted :
    ∃ course,
      start Disk.empty (Settings.ofDirectory ".")
        [.mutate (.makeDirectory "/a"), .roll fun _ => none,
          .mutate (.createFile "/a/b"), .mutate (.createFile "/a/b/c"),
          .checkpoint 2 fun _ => none, .crash, .mutate (.createFile "/d"),
          .forceSync fun _ => some ⟨.other "", 0⟩, .crash,
          .mutate (.makeDirectory "/e"), .close fun _ => none] = .ok course ∧
      course.Durable (Settings.ofDirectory ".") :=
  start_durable (fun _ => rfl)
    (show Disk.empty.Vacant (Settings.ofDirectory ".").home from
      Disk.vacant_empty) _ (by decide)

end Primary
end NameService
