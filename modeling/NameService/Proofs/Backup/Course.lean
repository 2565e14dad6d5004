import NameService.Proofs.Backup.Standing
import NameService.Proofs.Cluster.Following

/-!
# What outlives a Backup

A Backup recovers, is delivered records of a history, writes its log and takes
checkpoints, again and again, while any step of the disk may fail. A crash at a
step is the schedule under which that step and all later ones fail, so wherever
a Backup crashes it recovers, to the larger of the persisted checkpoint and the
last flushed transaction id.
-/

namespace NameService
namespace Backup

/-! ## Steps of a checkpoint -/

/-- A checkpoint begins with the image of what was applied, unless it is that of
the last one. -/
theorem beginCheckpoint_cases
    {backup : Backup}
    {catalog : Catalog}
    (tailing : backup.catalog = some catalog)
    (disk : Disk) :
    backup.beginCheckpoint disk = (disk, .ok none) ∨
      backup.lastCheckpoint.map Checkpoint.Info.txid ≠
        some catalog.appliedTxid ∧
        ∃ after answer,
          disk.replace (backup.settings.backupImageLocation catalog.appliedTxid)
            (Image.encode catalog.appliedTxid catalog.tree) = (after, answer) ∧
          backup.beginCheckpoint disk =
            (after, (answer.mapError ServiceError.file).map fun _ =>
              some ⟨catalog.appliedTxid,
                Image.encode catalog.appliedTxid catalog.tree⟩) := by
  unfold beginCheckpoint
  rw [tailing]
  by_cases known : backup.lastCheckpoint.map Checkpoint.Info.txid =
    some catalog.appliedTxid
  · exact .inl (if_pos known)
  · cases replaced : disk.replace
      (backup.settings.backupImageLocation catalog.appliedTxid)
      (Image.encode catalog.appliedTxid catalog.tree) with
    | mk after answer =>
        refine .inr ⟨known, after, answer, rfl, (if_neg known).trans ?_⟩
        simp only [replaced]
        cases answer <;> rfl

/-- A checkpoint that is not saved changes nothing. One that is saved is the
last one from then on, the earlier image goes, and the log is purged at most. -/
theorem finishCheckpoint_cases
    {backup : Backup}
    {catalog : Catalog}
    (tailing : backup.catalog = some catalog)
    (disk : Disk)
    (now txid : Nat) :
    let info : Checkpoint.Info := ⟨now, txid, Settings.backupImageName txid⟩
    let finished := backup.finishCheckpoint disk now txid
    (finished.state = backup ∧ ∃ error,
      info.save disk backup.settings.checkpointInfoLocation =
        (finished.disk, .error error)) ∨
    ∃ saved,
      info.save disk backup.settings.checkpointInfoLocation = (saved, .ok ()) ∧
      let dropped :=
        dropImage backup.settings saved backup.lastCheckpoint info.imageFile
      let purged := catalog.log.purgeThrough dropped txid
      finished.disk = dropped ∧
        finished.state = { backup with lastCheckpoint := some info } ∨
        finished.disk = purged.disk ∧ finished.state = { backup with
          lastCheckpoint := some info
          catalog := some { catalog with log := purged.state } } := by
  intro info finished
  simp only [finished, finishCheckpoint, info]
  split
  · rename_i after error failed
    exact .inl ⟨rfl, error, failed⟩
  · rename_i saved done
    refine .inr ⟨saved, done, ?_⟩
    simp only [purge, tailing]
    split
    · exact .inr ⟨rfl, rfl⟩
    · exact .inl ⟨rfl, rfl⟩

/-! ## Runs -/

/-- A time in milliseconds, as a word. -/
def stamp (milliseconds : Nat) : Nat := milliseconds % (Word.max + 1)

/-- What happens to a Backup. Failures are those of the steps of the disk that
it takes. -/
inductive Event
  /-- Records arrive in a batch. -/
  | deliver (records : List Record)
  /-- The log is written, in part or as a whole. -/
  | write (writing : Log.Writing) (failures : Nat → Option Disk.Failure)
  /-- A checkpoint begins: its image is taken and written. -/
  | begin (failures : Nat → Option Disk.Failure)
  /-- The Primary has accepted the image and the report of the checkpoint that
  is under way, at a time. -/
  | finish (milliseconds : Nat) (failures : Nat → Option Disk.Failure)
  /-- The Primary has not. -/
  | giveUp
  /-- The process is dropped, and a new one recovers. -/
  | restart

/-- Only records of a history are delivered. -/
def Event.Tells (history : List Operation) : Event → Prop
  | .deliver records => ∀ record ∈ records, record.Of history
  | _ => True

/-- A Backup on its disk. -/
structure Course where
  disk : Disk
  backup : Backup
  /-- The checkpoint that is under way. -/
  shipment : Option Shipment

namespace Course

/-- The same course with another local copy of the namespace. -/
def withCatalog (course : Course) (catalog : Catalog) : Course :=
  { course with backup := { course.backup with catalog := some catalog } }

/-- Write the log on a disk with failures. -/
def write
    (course : Course)
    (writing : Log.Writing)
    (failures : Nat → Option Disk.Failure) : Course :=
  match course.backup.catalog with
  | none => course
  | some catalog =>
      let outcome :=
        catalog.withLog
          (catalog.log.write (course.disk.failing failures) writing)
      { course.withCatalog outcome.state with disk := outcome.disk.mended }

/-- Begin a checkpoint on a disk with failures. -/
def begin (course : Course) (failures : Nat → Option Disk.Failure) : Course :=
  let begun := course.backup.beginCheckpoint (course.disk.failing failures)
  { course with disk := begun.1.mended, shipment := begun.2.toOption.join }

/-- Finish a checkpoint on a disk with failures. -/
def finish
    (course : Course)
    (shipment : Shipment)
    (milliseconds : Nat)
    (failures : Nat → Option Disk.Failure) : Course :=
  let finished := course.backup.finishCheckpoint (course.disk.failing failures)
    (stamp milliseconds) shipment.txid
  ⟨finished.disk.mended, finished.state, none⟩

/-- Start a new process. -/
def restart (course : Course) : Except ServiceError Course :=
  match (new course.backup.settings).recover course.disk with
  | ⟨_, _, .error cause⟩ => .error cause
  | ⟨disk, backup, .ok ()⟩ => .ok ⟨disk, backup, none⟩

/-- What a course is after one more event. -/
def step (course : Course) : Event → Except ServiceError Course
  | .deliver records =>
      .ok { course with backup := (course.backup.absorb records).1 }
  | .write writing failures => .ok (course.write writing failures)
  | .begin failures => .ok (course.begin failures)
  | .finish milliseconds failures =>
      match course.shipment with
      | none => .ok course
      | some shipment => .ok (course.finish shipment milliseconds failures)
  | .giveUp => .ok { course with shipment := none }
  | .restart => course.restart

/-- What a course is after a run of events. -/
def run (course : Course) (events : List Event) : Except ServiceError Course :=
  events.foldlM step course

/-- Start a Backup on a disk and let a run of events happen to it. -/
def start
    (disk : Disk)
    (settings : Settings)
    (events : List Event) : Except ServiceError Course := do
  let course ← restart ⟨disk, new settings, none⟩
  course.run events

/-- One more event happens to a Backup that was started. -/
theorem start_append
    (disk : Disk)
    (settings : Settings)
    (events : List Event)
    (event : Event) :
    start disk settings (events ++ [event]) =
      (start disk settings events).bind fun course => course.step event := by
  rw [start, start]
  cases restart ⟨disk, new settings, none⟩ with
  | error cause => rfl
  | ok course =>
      show course.run (events ++ [event]) = (course.run events).bind _
      simp only [run, List.foldlM_append, List.foldlM_cons, List.foldlM_nil,
        bind_pure]
      rfl

/-! ## The invariant -/

/-- The data directory and the log stand for the history as far as the Backup
has applied it, and the image of the checkpoint that is under way is there. -/
structure Sustained
    (settings : Settings)
    (history : List Operation)
    (course : Course)
    (catalog : Catalog) : Prop where
  configured : course.backup.settings = settings
  tailing : course.backup.catalog = some catalog
  directory : catalog.log.directory = settings.editsLocation
  mirrors : catalog.Mirrors history
  covered : coveredTxid course.backup.lastCheckpoint ≤ catalog.appliedTxid
  stored : Stored settings course.disk history course.backup.lastCheckpoint
  logged : ∃ chapters,
    Logged catalog.log course.disk (history.take catalog.appliedTxid)
      (coveredTxid course.backup.lastCheckpoint) chapters
  /-- The checkpoint that is under way is not behind the last one. -/
  shipped : ∀ shipment ∈ course.shipment,
    coveredTxid course.backup.lastCheckpoint ≤ shipment.txid ∧
      shipment.txid ≤ catalog.appliedTxid ∧
      Holds settings course.disk history shipment.txid

variable {settings : Settings} {history : List Operation} {course : Course}
  {catalog : Catalog}

/-- The history goes at least as far as was applied. -/
theorem Sustained.length_take
    (sustained : course.Sustained settings history catalog) :
    (history.take catalog.appliedTxid).length = catalog.appliedTxid :=
  List.length_take_of_le sustained.mirrors.bounded

/-- The failures of the disk make no difference to what stands on it. -/
theorem Sustained.failing
    (sustained : course.Sustained settings history catalog)
    (failures : Nat → Option Disk.Failure) :
    ({ course with disk := course.disk.failing failures }).Sustained settings
      history catalog := by
  obtain ⟨chapters, logged⟩ := sustained.logged
  exact { sustained with
    stored := sustained.stored.failing failures
    logged := ⟨chapters, logged.on rfl fun _ => rfl⟩
    shipped := sustained.shipped }

/-! ## Records -/

/-- The next record of the history is logged. -/
theorem Sustained.next
    (sustained : course.Sustained settings history catalog)
    (word : history.length ≤ Word.max)
    {record : Record}
    (tells : record.Of history)
    (isNext : record.txid = catalog.appliedTxid + 1) :
    (course.withCatalog (catalog.applyRecord record).1).Sustained settings
      history (catalog.applyRecord record).1 := by
  have mirrors := sustained.mirrors.applyRecord word tells
  obtain ⟨chapters, logged⟩ := sustained.logged
  have found := tells.2
  have reached := tells.txid_le
  have room : catalog.appliedTxid < Word.max := by omega
  have next : Word.next catalog.log.lastTxid = catalog.log.lastTxid + 1 :=
    Word.next_of_lt room
  rw [isNext, Nat.add_sub_cancel] at found
  have appended :=
    logged.append (by rwa [sustained.length_take]) record.operation
  have taken : history.take catalog.appliedTxid ++ [record.operation] =
      history.take (catalog.appliedTxid + 1) := by
    rw [List.take_add_one, found]
    rfl
  have isRecord : (⟨catalog.log.lastTxid + 1, record.operation⟩ : Record) =
      record := by
    rw [show catalog.log.lastTxid + 1 = record.txid from isNext.symm]
  rw [taken] at appended
  simp only [Log.append, next, isRecord] at appended
  rw [Catalog.applyRecord_next (Nat.le_trans reached word) isNext] at mirrors ⊢
  refine ⟨sustained.configured, rfl, sustained.directory, mirrors, ?_,
    sustained.stored, ⟨chapters, ?_⟩, fun shipment isUnderWay => ?_⟩
  · exact sustained.covered.trans (isNext ▸ Nat.le_succ _)
  · simp only [Catalog.appliedTxid, isNext] at appended ⊢
    exact appended
  · obtain ⟨later, within, held⟩ := sustained.shipped shipment isUnderWay
    exact ⟨later, within.trans (isNext ▸ Nat.le_succ _), held⟩

/-- Records of the history are logged as far as they go on with what was
applied. -/
theorem Sustained.deliver
    (sustained : course.Sustained settings history catalog)
    (word : history.length ≤ Word.max)
    {records : List Record}
    (tell : ∀ record ∈ records, record.Of history) :
    ∃ after,
      ({ course with backup := (course.backup.absorb records).1 }).Sustained
        settings history after := by
  have absorbed : course.backup.absorb records =
      ({ course.backup with catalog := some (catalog.applyBatch records).1 },
        (catalog.applyBatch records).2) := by
    simp only [absorb, sustained.tailing]
  rw [absorbed]
  refine ⟨_, Catalog.applyBatch_induction
    (fun catalog =>
      (course.withCatalog catalog).Sustained settings history catalog)
    (fun catalog record present kept => ?_) ?_⟩
  · rcases catalog.applyRecord_cases record with same | isNext
    · rw [same]
      exact kept
    · exact kept.next word (tell record present) isNext
  · exact { sustained with tailing := rfl }

/-! ## The disk -/

/-- What was applied goes on standing on another disk, with another log that
ends where the log did, and whatever the checkpoint. -/
theorem Sustained.on
    (sustained : course.Sustained settings history catalog)
    {disk : Disk}
    {backup : Backup}
    {shipment : Option Shipment}
    {log : Log}
    {chapters : List Log.Chapter}
    (configured : backup.settings = settings)
    (tailing : backup.catalog = some { catalog with log := log })
    (directory : log.directory = settings.editsLocation)
    (lastTxid : log.lastTxid = catalog.appliedTxid)
    (covered : coveredTxid backup.lastCheckpoint ≤ catalog.appliedTxid)
    (stored : Stored settings disk history backup.lastCheckpoint)
    (logged : Logged log disk (history.take catalog.appliedTxid)
      (coveredTxid backup.lastCheckpoint) chapters)
    (shipped : ∀ sent ∈ shipment,
      coveredTxid backup.lastCheckpoint ≤ sent.txid ∧
      sent.txid ≤ catalog.appliedTxid ∧ Holds settings disk history sent.txid) :
    Sustained settings history ⟨disk.mended, backup, shipment⟩
      { catalog with log := log } := by
  have same : ({ catalog with log := log } : Catalog).appliedTxid =
      catalog.appliedTxid := lastTxid
  refine (⟨configured, tailing, directory, ⟨?_, ?_⟩, ?_, stored, ⟨chapters, ?_⟩,
    ?_⟩ :
    Sustained settings history ⟨disk, backup, shipment⟩ _).failing _
  · exact same ▸ sustained.mirrors.bounded
  · exact same ▸ sustained.mirrors.tree
  · exact same ▸ covered
  · exact same ▸ logged
  · exact same ▸ shipped

/-- Writing the log changes neither what was applied nor the data directory. -/
theorem Sustained.write
    (sustained : course.Sustained settings history catalog)
    (word : history.length ≤ Word.max)
    (writing : Log.Writing)
    (failures : Nat → Option Disk.Failure) :
    ∃ after,
      (course.write writing failures).Sustained settings history after := by
  obtain ⟨chapters, before⟩ := (sustained.failing failures).logged
  have length := sustained.length_take
  have taken : (history.take catalog.appliedTxid).length ≤ Word.max := by
    rw [length]
    exact Nat.le_trans sustained.mirrors.bounded word
  obtain ⟨directory, told, logged⟩ := before.write taken writing
  have retains :=
    Log.retains_write catalog.log (course.disk.failing failures) writing
  have frame : ∀ place, Log.Outside settings.editsLocation place →
      (catalog.log.write (course.disk.failing failures) writing).disk.item?
        place =
        course.disk.item? place := fun place outside =>
    Log.item?_write _ _ _ (sustained.directory ▸ outside)
  rw [Course.write, sustained.tailing]
  refine ⟨_,
    sustained.on sustained.configured rfl (directory.trans sustained.directory)
      (logged.whole.whole.trans length) sustained.covered
      (sustained.stored.frame retains frame)
    logged fun sent isSent => ?_⟩
  obtain ⟨later, within, held⟩ := sustained.shipped sent isSent
  exact ⟨later, within, (Primary.item?_home_of_frame frame _).trans held⟩

/-! ## Checkpoints -/

/-- The image of what was applied is written, or there is nothing new to
take. -/
theorem Sustained.begin
    (sustained : course.Sustained settings history catalog)
    (failures : Nat → Option Disk.Failure) :
    (course.begin failures).Sustained settings history catalog := by
  have before := sustained.failing failures
  obtain ⟨chapters, logged⟩ := before.logged
  rw [Course.begin]
  rcases beginCheckpoint_cases sustained.tailing
    (course.disk.failing failures) with
    same | ⟨fresh, after, answer, replaced, outcome⟩
  · rw [same]
    exact before.on sustained.configured sustained.tailing sustained.directory
      rfl sustained.covered before.stored logged fun sent isSent => by
        cases isSent
  · rw [sustained.configured] at replaced
    rw [outcome]
    refine before.on sustained.configured sustained.tailing sustained.directory
      rfl sustained.covered (before.stored.replace_image fresh replaced)
      (logged.touches sustained.directory (touches_replace replaced))
        fun sent isSent => ?_
    cases answer with
    | error cause => cases isSent
    | ok _ =>
        obtain rfl := Option.some.inj isSent
        refine ⟨sustained.covered, Nat.le_refl _, ?_⟩
        rw [Holds, ← sustained.mirrors.tree]
        exact Disk.item?_replaced replaced

/-- The word of a time is one. -/
theorem stamp_le (milliseconds : Nat) : stamp milliseconds ≤ Word.max :=
  Nat.le_of_lt_succ (Nat.mod_lt _ (Nat.succ_pos _))

/-- The checkpoint that was under way becomes the last one, or the last one
stays. -/
theorem Sustained.finish
    (sustained : course.Sustained settings history catalog)
    (word : history.length ≤ Word.max)
    {shipment : Shipment}
    (isUnderWay : shipment ∈ course.shipment)
    (milliseconds : Nat)
    (failures : Nat → Option Disk.Failure) :
    ∃ after,
      (course.finish shipment milliseconds failures).Sustained settings history
        after ∧
      after.log.flushedTxid = catalog.log.flushedTxid := by
  have before := sustained.failing failures
  obtain ⟨chapters, logged⟩ := before.logged
  obtain ⟨later, within, held⟩ := before.shipped shipment isUnderWay
  have bounded := sustained.mirrors.bounded
  have length := sustained.length_take
  let info : Checkpoint.Info :=
    ⟨stamp milliseconds, shipment.txid, Settings.backupImageName shipment.txid⟩
  rw [Course.finish]
  rcases finishCheckpoint_cases sustained.tailing (course.disk.failing failures)
    (stamp milliseconds) shipment.txid with
      ⟨state, error, failed⟩ | ⟨saved, done, outcome⟩
  · rw [sustained.configured] at failed
    rw [state]
    refine ⟨catalog, ?_, rfl⟩
    exact before.on sustained.configured sustained.tailing sustained.directory
      rfl sustained.covered (before.stored.save_error failed)
      (logged.touches sustained.directory (touches_replace failed))
        fun _ isSent => by cases isSent
  · rw [sustained.configured] at done outcome
    have legible : info.Legible :=
      legible_info (stamp_le milliseconds) (by omega)
    -- From here on the checkpoint is the new one, so the earlier image is of no
    -- use.
    have savedStored := before.stored.save legible rfl held done
    have earlier :=
      sustained.stored.named (Nat.le_trans sustained.covered (by omega))
    obtain ⟨names, touches, notInfo, notImage⟩ :=
      touches_dropImage savedStored.direct earlier
        (show info.imageFile = Settings.backupImageName info.txid from rfl)
    have droppedStored :=
      savedStored.touches touches notInfo fun known isKnown => by
      obtain rfl := Option.some.inj isKnown
      exact notImage
    have droppedLogged :=
      ((logged.touches sustained.directory (touches_replace done)).raise
        later).touches sustained.directory touches
    rcases outcome with ⟨disk, state⟩ | ⟨disk, state⟩
    · rw [disk, state]
      refine ⟨catalog, ?_, rfl⟩
      exact before.on rfl sustained.tailing sustained.directory rfl within
        droppedStored droppedLogged fun _ isSent => (by cases isSent)
    · obtain ⟨kept, purged⟩ := droppedLogged.purgeThrough (by omega)
      rw [disk, state]
      refine ⟨_, before.on rfl rfl sustained.directory rfl within
        (droppedStored.frame (Log.retains_purgeSpans _ _ _ _)
          fun place outside => ?_) purged fun _ isSent => (by cases isSent),
        rfl⟩
      exact Log.item?_purgeThrough _ _ _ (sustained.directory ▸ outside)

/-! ## Restarts -/

/-- A new process recovers what outlives the Backup, and sustains it. -/
theorem Sustained.recover
    (sustained : course.Sustained settings history catalog)
    (countable : Countable history) :
    ∃ recovered : Catalog,
      (new settings).recover course.disk = ⟨course.disk, { new settings with
        catalog := some recovered
        lastCheckpoint := course.backup.lastCheckpoint }, .ok ()⟩ ∧
      recovered.appliedTxid =
        max (coveredTxid course.backup.lastCheckpoint) catalog.log.flushedTxid ∧
      Sustained settings history ⟨course.disk, { new settings with
        catalog := some recovered
        lastCheckpoint := course.backup.lastCheckpoint }, none⟩ recovered := by
  obtain ⟨chapters, logged⟩ := sustained.logged
  have bounded := sustained.mirrors.bounded
  have covered := sustained.covered
  have length := sustained.length_take
  have flushed := logged.flushedTxid_le
  rw [length] at flushed
  let txid :=
    max (coveredTxid course.backup.lastCheckpoint) catalog.log.flushedTxid
  have applied : txid ≤ catalog.appliedTxid := Nat.max_le.mpr ⟨covered, flushed⟩
  -- The log is opened over all segments there are, also those that it had given
  -- up.
  have reopened :=
    logged.whole.reopen (length.symm ▸ covered) (show _ = txid from rfl)
      settings.segmentSize
  rw [List.take_take, Nat.min_eq_left applied] at reopened
  simp only [Log.directory_relisted, sustained.directory] at reopened
  refine ⟨recoveredCatalog settings history (chapters.map Log.Chapter.span)
    txid,
    recover_of_stored sustained.stored countable bounded covered logged
      sustained.directory, rfl,
    rfl, rfl, rfl, ⟨Nat.le_trans applied bounded, rfl⟩, Nat.le_max_left _ _,
    sustained.stored, ⟨chapters, reopened, .refl _⟩,
    fun _ isSent => by cases isSent⟩

theorem Sustained.restart
    (sustained : course.Sustained settings history catalog)
    (countable : Countable history) :
    ∃ after, course.restart = .ok after ∧
      ∃ recovered, after.Sustained settings history recovered := by
  obtain ⟨recovered, outcome, -, sustains⟩ := sustained.recover countable
  refine ⟨_, ?_, recovered, sustains⟩
  rw [Course.restart, sustained.configured, outcome]

/-! ## Events -/

/-- Every event goes through and leaves a Backup that is sustained. -/
theorem Sustained.step
    (sustained : course.Sustained settings history catalog)
    (countable : Countable history)
    {event : Event}
    (told : event.Tells history) :
    ∃ after, course.step event = .ok after ∧
      ∃ current, after.Sustained settings history current := by
  cases event with
  | deliver records => exact ⟨_, rfl, sustained.deliver countable.txids told⟩
  | write writing failures =>
      exact ⟨_, rfl, sustained.write countable.txids writing failures⟩
  | begin failures => exact ⟨_, rfl, catalog, sustained.begin failures⟩
  | finish milliseconds failures =>
      rw [Course.step]
      split
      · exact ⟨course, rfl, catalog, sustained⟩
      · rename_i shipment isUnderWay
        obtain ⟨current, sustains, -⟩ :=
          sustained.finish countable.txids isUnderWay milliseconds failures
        exact ⟨_, rfl, current, sustains⟩
  | giveUp =>
      exact ⟨_, rfl, catalog,
        { sustained with shipped := fun _ isSent => by cases isSent }⟩
  | restart => exact sustained.restart countable

/-- Every run of events goes through and leaves a Backup that is sustained. -/
theorem Sustained.run
    (sustained : course.Sustained settings history catalog)
    (countable : Countable history)
    {events : List Event}
    (told : ∀ event ∈ events, event.Tells history) :
    ∃ after, course.run events = .ok after ∧
      ∃ current, after.Sustained settings history current :=
  foldlM_of_allowed (fun event present _ ⟨_, sustains⟩ =>
    sustains.step countable (told event present)) ⟨catalog, sustained⟩

/-- A Backup that has recovered from an empty data directory is sustained. -/
theorem sustained_start
    {disk : Disk}
    (vacant : disk.Vacant settings.home)
    (direct : settings.Direct disk Settings.imageNameLength)
    (history : List Operation) :
    Sustained settings history
      ⟨Primary.started disk settings, fresh settings, none⟩
      (.new (.ofSpans settings.editsLocation settings.segmentSize [])) := by
  have free (name : String) (notUp : name ≠ "..") (notRoot : name ≠ "/") :
      disk.item? (settings.home ++ [name]) = none :=
    vacant.empty [name] (by simp) (by simp [notUp, notRoot])
  have retains : disk.Retains (Primary.started disk settings) := by
    have missing :
        ({ disk with clock := disk.clock + 1 }).item? settings.editsLocation ≠
        some .directory := by
      rw [Disk.item?_clock, Settings.editsLocation,
        free _ (by decide) (by decide)]
      decide
    exact Disk.retains_put missing .directory
  have noInfo :
      (Primary.started disk settings).item? settings.checkpointInfoLocation =
        none := by
    have apart : Settings.checkpointInfoName ≠ Settings.editsName := by decide
    exact (Primary.item?_started disk settings
      (Primary.append_ne_append apart settings.home)).trans
      (free _ (by decide) (by decide))
  exact ⟨rfl, rfl, rfl, Catalog.mirrors_new _ _ _, Nat.le_refl 0,
    ⟨Primary.stands_started vacant.stands, direct.retained retains, noInfo,
      fun _ isKnown => by cases isKnown⟩,
    ⟨[], Primary.logged_started vacant, .refl _⟩,
    fun _ isSent => by cases isSent⟩

/-! ## What is recovered -/

/-- A Backup recovers from a disk: to the larger of the checkpoint that is on it
and the last flushed transaction id, with the tree of the history at it. -/
def Recovers
    (settings : Settings)
    (history : List Operation)
    (flushedTxid : Nat)
    (disk : Disk) : Prop :=
  ∃ checkpoint catalog,
    Checkpoint.Info.load disk settings.checkpointInfoLocation = .ok checkpoint ∧
      (new settings).recover disk =
        ⟨disk, { new settings with
          catalog := some catalog
          lastCheckpoint := checkpoint }, .ok ()⟩ ∧
      catalog.appliedTxid = max (coveredTxid checkpoint) flushedTxid ∧
      catalog.appliedTxid ≤ history.length ∧
      catalog.tree = Tree.ofHistory history catalog.appliedTxid

theorem Sustained.recovers
    (sustained : course.Sustained settings history catalog)
    (countable : Countable history) :
    Recovers settings history catalog.log.flushedTxid course.disk := by
  obtain ⟨recovered, outcome, applied, sustains⟩ := sustained.recover countable
  exact ⟨_, recovered, sustained.stored.kept.load, outcome, applied,
    sustains.mirrors.bounded, sustains.mirrors.tree⟩

/-- Wherever a Backup crashes from now on, before it takes a checkpoint, in the
middle of its beginning or in the middle of its end, it recovers. -/
structure Durable
    (settings : Settings)
    (history : List Operation)
    (course : Course)
    (flushedTxid : Nat) : Prop where
  now : Recovers settings history flushedTxid course.disk
  began : ∀ failures,
    Recovers settings history flushedTxid (course.begin failures).disk
  finished : ∀ shipment ∈ course.shipment, ∀ milliseconds failures,
    Recovers settings history flushedTxid
      (course.finish shipment milliseconds failures).disk

theorem Sustained.durable
    (sustained : course.Sustained settings history catalog)
    (countable : Countable history) :
    course.Durable settings history catalog.log.flushedTxid := by
  refine ⟨sustained.recovers countable,
    fun failures => (sustained.begin failures).recovers countable,
    fun shipment isUnderWay milliseconds failures => ?_⟩
  obtain ⟨after, sustains, flushed⟩ :=
    sustained.finish countable.txids isUnderWay milliseconds failures
  exact flushed ▸ sustains.recovers countable

/-- Whatever happens to a Backup that is started on an empty data directory and
is delivered records of a history, it goes through, restarts included, and the
Backup is durable. -/
theorem start_recovers
    {disk : Disk}
    {settings : Settings}
    (reliable : disk.Reliable)
    (vacant : disk.Vacant settings.home)
    (direct : settings.Direct disk Settings.imageNameLength)
    {history : List Operation}
    (countable : Countable history)
    {events : List Event}
    (told : ∀ event ∈ events, event.Tells history) :
    ∃ course catalog, start disk settings events = .ok course ∧
      course.backup.catalog = some catalog ∧
      course.Durable settings history catalog.log.flushedTxid := by
  obtain ⟨course, isRun, catalog, sustained⟩ :=
    (sustained_start vacant direct history).run countable told
  refine ⟨course, catalog, ?_, sustained.tailing, sustained.durable countable⟩
  have recovered := recover_of_vacant reliable vacant
  simp only [start, restart, show (new settings).settings = settings from rfl,
    recovered]
  exact isRun

/-- A Backup whose second checkpoint is cut off between the persisted checkpoint
and the image of the first one recovers to the second one, and begins
another. -/
theorem start_recovers_cut_off :
    ∃ course catalog,
      start Disk.empty (Settings.ofDirectory ".")
        [.deliver [⟨1, .makeDirectory "/a"⟩, ⟨2, .createFile "/a/b"⟩],
          .write .roll fun _ => none, .begin fun _ => none,
          .finish 1000 fun _ => none, .deliver [⟨3, .makeDirectory "/c"⟩],
          .begin fun _ => none,
          .finish 2000 fun step => if step < 22 then none else
            some ⟨.other "", 0⟩, .restart,
          .deliver [⟨3, .makeDirectory "/c"⟩, ⟨4, .createFile "/c/d"⟩],
          .write .forceSync fun _ => some ⟨.other "", 1⟩,
          .begin fun _ => none] = .ok course ∧
      course.backup.catalog = some catalog ∧
      course.Durable (Settings.ofDirectory ".")
        [.makeDirectory "/a", .createFile "/a/b", .makeDirectory "/c",
          .createFile "/c/d"] catalog.log.flushedTxid :=
  start_recovers (fun _ => rfl)
    (show Disk.empty.Vacant (Settings.ofDirectory ".").home from
      Disk.vacant_empty)
    (Settings.direct_of_noUp (by decide) (by decide) (by decide))
    ⟨by decide, by decide +kernel⟩ (by simp [Event.Tells, Record.Of])

end Course
end Backup
end NameService
