import NameService.Proofs.Backup.Course
import NameService.Proofs.Inspection.Restart

/-!
# What a Backup leaves behind

Whatever a Backup is delivered, its log lies in its data directory and its
bookkeeping names the image of its last checkpoint. No history has to be told
for that, and no image has to be there: a Backup that lost an image goes on from
what its segments hold.
-/

namespace NameService

/-! ## Logs in a data directory -/

namespace Log.LiesIn

variable {settings : Settings} {disk after : Disk} {log : Log}
  {chapters : List Log.Chapter}

/-- The failures of the disk make no difference to a log. -/
theorem failing
    (lies : log.LiesIn settings disk chapters)
    (failures : Nat → Option Disk.Failure) :
    log.LiesIn settings (disk.failing failures) chapters :=
  ⟨lies.archived.failing failures, lies.directory, lies.stands, lies.word⟩

/-- A log stays where it is when files of the data directory are touched. -/
theorem touches
    (lies : log.LiesIn settings disk chapters)
    {names : List String}
    (touches : Backup.Touches settings names disk after) :
    log.LiesIn settings after chapters := by
  refine ⟨lies.archived.on ?_ fun span => touches.frame _ fun name _ => ?_,
    lies.directory, lies.stands.retained touches.retains, lies.word⟩
  · rw [lies.directory]
    exact touches.segments
  · rw [lies.directory]
    exact (Primary.outside_editsLocation settings name _).symm

/-- A record is appended in memory. -/
theorem append_record
    (lies : log.LiesIn settings disk chapters)
    {record : Record}
    (next : record.txid = log.lastTxid + 1)
    (word : record.txid ≤ Word.max) :
    ({ log with
      active := log.active ++ [record], lastTxid := record.txid } : Log).LiesIn
      settings disk chapters := by
  have appended := lies.archived.shelved.append_record next
  exact ⟨lies.archived.rebuffer rfl rfl (Nat.le_refl _) appended.numbered
    appended.complete,
    lies.directory, lies.stands, word⟩

/-- A writing adds segments. -/
theorem write
    (lies : log.LiesIn settings disk chapters)
    (writing : Log.Writing) :
    ∃ written,
      (log.write disk writing).state.LiesIn settings
        (log.write disk writing).disk written := by
  obtain ⟨added, flushes, -, archived⟩ := lies.archived.write lies.word writing
  exact ⟨_, archived, flushes.directory.trans lies.directory,
    lies.stands.retained (Log.retains_write log disk writing),
    flushes.lastTxid ▸ lies.word⟩

/-- A purge takes segments away. -/
theorem purgeThrough (lies : log.LiesIn settings disk chapters) (txid : Nat) :
    ∃ kept,
      (log.purgeThrough disk txid).state.LiesIn settings
        (log.purgeThrough disk txid).disk kept := by
  obtain ⟨gone, -, archived⟩ := lies.archived.purgeThrough lies.flushed_le txid
  exact ⟨_, archived, lies.directory,
    lies.stands.retained (Log.retains_purgeSpans _ _ _ _), lies.word⟩

/-- A log that is opened anew over all segments lies in the data directory. -/
theorem reopen
    (lies : log.LiesIn settings disk chapters)
    {txid : Nat}
    (covered : Log.lastCovered (chapters.map Log.Chapter.span) ≤ txid)
    (word : txid ≤ Word.max) :
    Log.LiesIn settings disk
      ⟨settings.editsLocation, settings.segmentSize, [], txid, [],
        chapters.map Log.Chapter.span, txid⟩ chapters := by
  have reopened := lies.archived.reopen settings.segmentSize covered
  rw [lies.directory] at reopened
  exact ⟨reopened, rfl, lies.stands, word⟩

end Log.LiesIn

namespace Backup

variable {settings : Settings} {disk after : Disk}
  {checkpoint : Option Checkpoint.Info}

/-! ## Bookkeeping -/

/-- The data directory remembers a checkpoint by the name of its image, whether
the image is there or not. -/
structure Remembers
    (settings : Settings)
    (disk : Disk)
    (checkpoint : Option Checkpoint.Info) : Prop where
  direct : settings.Direct disk Settings.imageNameLength
  kept : Checkpoint.Info.Keeps disk settings.checkpointInfoLocation checkpoint
  named : ∀ info ∈ checkpoint,
    info.imageFile = Settings.backupImageName info.txid ∧ info.txid ≤ Word.max

/-- A checkpoint is remembered as long as its file is left alone. -/
theorem Remembers.on
    (remembers : Remembers settings disk checkpoint)
    (retains : disk.Retains after)
    (same : after.item? settings.checkpointInfoLocation =
      disk.item? settings.checkpointInfoLocation) :
    Remembers settings after checkpoint :=
  ⟨remembers.direct.retained retains, remembers.kept.frame same,
    remembers.named⟩

theorem Remembers.touches
    (remembers : Remembers settings disk checkpoint)
    {names : List String}
    (touches : Touches settings names disk after)
    (notInfo : Settings.checkpointInfoName ∉ names) :
    Remembers settings after checkpoint :=
  remembers.on touches.retains (touches.item?_eq notInfo)

/-- The directory of the log may change. -/
theorem Remembers.frame
    (remembers : Remembers settings disk checkpoint)
    (retains : disk.Retains after)
    (frame : ∀ place, Log.Outside settings.editsLocation place →
      after.item? place = disk.item? place) :
    Remembers settings after checkpoint :=
  remembers.on retains (Primary.item?_home_of_frame frame _)

/-- The failures of the disk make no difference to what is remembered. -/
theorem Remembers.failing
    (remembers : Remembers settings disk checkpoint)
    (failures : Nat → Option Disk.Failure) :
    Remembers settings (disk.failing failures) checkpoint :=
  remembers.on disk.retains_refl rfl

/-- It does not matter which settings of a data directory remember a
checkpoint. -/
theorem Remembers.congr
    (remembers : Remembers settings disk checkpoint)
    {other : Settings}
    (same : other.dataDirectory = settings.dataDirectory) :
    Remembers other disk checkpoint := by
  obtain ⟨⟨passes, room⟩, kept, named⟩ := remembers
  refine ⟨⟨?_, ?_⟩, ?_, named⟩
  · rw [same]
    exact passes
  · rw [same]
    exact room
  · rw [Settings.checkpointInfoLocation, Settings.home, same]
    exact kept

/-- A checkpoint that is saved is remembered, and one that is not leaves the one
before. -/
theorem Remembers.save
    (remembers : Remembers settings disk checkpoint)
    {now txid : Nat}
    (nowWord : now ≤ Word.max)
    (txidWord : txid ≤ Word.max)
    {answer : Except FileError Unit}
    (saved : Checkpoint.Info.save ⟨now, txid, Settings.backupImageName txid⟩
      disk settings.checkpointInfoLocation = (after, answer)) :
    match answer with
    | .error _ => Remembers settings after checkpoint
    | .ok () => Remembers settings after
        (some ⟨now, txid, Settings.backupImageName txid⟩) := by
  have retains := (touches_replace saved).retains
  cases answer with
  | error cause => exact remembers.on retains (item?_info_of_save_error saved)
  | ok done =>
      refine ⟨remembers.direct.retained retains, ⟨legible_info nowWord txidWord,
        Disk.item?_replaced saved⟩, fun info isInfo => ?_⟩
      obtain rfl := Option.some.inj isInfo
      exact ⟨rfl, txidWord⟩

/-- The transaction ids of what is delivered are words. -/
def Event.Words : Event → Prop
  | .deliver records => ∀ record ∈ records, record.txid ≤ Word.max
  | _ => True

namespace Course

/-! ## The invariant -/

/-- The log of a Backup lies in its data directory, which remembers its last
checkpoint. -/
structure Settled
    (settings : Settings)
    (course : Course)
    (catalog : Catalog) : Prop where
  configured : course.backup.settings = settings
  tailing : course.backup.catalog = some catalog
  lies : ∃ chapters, catalog.log.LiesIn settings course.disk chapters
  remembers : Remembers settings course.disk course.backup.lastCheckpoint
  shipped : ∀ shipment ∈ course.shipment, shipment.txid ≤ Word.max

variable {course : Course} {catalog : Catalog}

/-- What was applied last is a word. -/
theorem Settled.word (settled : course.Settled settings catalog) :
    catalog.appliedTxid ≤ Word.max := by
  obtain ⟨chapters, lies⟩ := settled.lies
  exact lies.word

/-- The failures of the disk make no difference to a Backup. -/
theorem Settled.failing
    (settled : course.Settled settings catalog)
    (failures : Nat → Option Disk.Failure) :
    ({ course with disk := course.disk.failing failures }).Settled settings
      catalog := by
  obtain ⟨chapters, lies⟩ := settled.lies
  exact { settled with
    lies := ⟨chapters, lies.failing failures⟩
    remembers := settled.remembers.failing failures }

/-- A Backup goes on when files are touched other than the one of its
checkpoint. -/
theorem Settled.touches
    (settled : course.Settled settings catalog)
    {disk : Disk}
    {names : List String}
    (touches : Touches settings names course.disk disk)
    (notInfo : Settings.checkpointInfoName ∉ names) :
    ({ course with disk := disk }).Settled settings catalog := by
  obtain ⟨chapters, lies⟩ := settled.lies
  exact { settled with
    lies := ⟨chapters, lies.touches touches⟩
    remembers := settled.remembers.touches touches notInfo }

/-- The failures of the disk go with an event. -/
theorem settled_mended
    {disk : Disk}
    {backup : Backup}
    {shipment : Option Shipment}
    (configured : backup.settings = settings)
    (tailing : backup.catalog = some catalog)
    (lies : ∃ chapters, catalog.log.LiesIn settings disk chapters)
    (remembers : Remembers settings disk backup.lastCheckpoint)
    (shipped : ∀ sent ∈ shipment, sent.txid ≤ Word.max) :
    Settled settings ⟨disk.mended, backup, shipment⟩ catalog :=
  (⟨configured, tailing, lies, remembers, shipped⟩ :
    Settled settings ⟨disk, backup, shipment⟩ catalog).failing fun _ => none

/-! ## Events -/

/-- Records are logged as far as they go on with what was applied. -/
theorem Settled.deliver
    (settled : course.Settled settings catalog)
    {records : List Record}
    (words : ∀ record ∈ records, record.txid ≤ Word.max) :
    ∃ after,
      ({ course with backup := (course.backup.absorb records).1 }).Settled
        settings after := by
  have absorbed : course.backup.absorb records =
      ({ course.backup with catalog := some (catalog.applyBatch records).1 },
        (catalog.applyBatch records).2) := by
    simp only [absorb, settled.tailing]
  rw [absorbed]
  refine ⟨_, { settled with tailing := rfl, lies := ?_ }⟩
  refine Catalog.applyBatch_induction
    (fun catalog =>
      ∃ chapters, catalog.log.LiesIn settings course.disk chapters)
    (fun catalog record present kept => ?_) settled.lies
  obtain ⟨chapters, lies⟩ := kept
  rcases catalog.applyRecord_cases record with same | isNext
  · rw [same]
    exact ⟨chapters, lies⟩
  · rw [Catalog.applyRecord_next (words record present) isNext]
    exact ⟨chapters, lies.append_record isNext (words record present)⟩

/-- A writing changes only the directory of the log. -/
theorem Settled.write
    (settled : course.Settled settings catalog)
    (writing : Log.Writing)
    (failures : Nat → Option Disk.Failure) :
    ∃ after, (course.write writing failures).Settled settings after := by
  obtain ⟨chapters, lies⟩ := settled.lies
  obtain ⟨written, liesNow⟩ := (lies.failing failures).write writing
  have retains :=
    Log.retains_write catalog.log (course.disk.failing failures) writing
  have remembers :=
    (settled.remembers.failing failures).frame retains fun place outside =>
    Log.item?_write catalog.log _ writing (lies.directory ▸ outside)
  rw [Course.write, settled.tailing]
  exact ⟨_,
    settled_mended settled.configured rfl ⟨written, liesNow⟩ remembers
      settled.shipped⟩

/-- The image of what was applied is written, or there is nothing new to
take. -/
theorem Settled.begin
    (settled : course.Settled settings catalog)
    (failures : Nat → Option Disk.Failure) :
    (course.begin failures).Settled settings catalog := by
  have before := settled.failing failures
  rw [Course.begin]
  rcases beginCheckpoint_cases settled.tailing
    (course.disk.failing failures) with
    same | ⟨-, after, answer, replaced, outcome⟩
  · rw [same]
    exact settled_mended before.configured before.tailing before.lies
      before.remembers fun sent isSent => by cases isSent
  · rw [settled.configured] at replaced
    have touched :=
      before.touches (touches_replace replaced) (checkpointInfoName_not_mem _)
    rw [outcome]
    refine settled_mended touched.configured touched.tailing touched.lies
      touched.remembers fun sent isSent => ?_
    cases answer with
    | error cause => cases isSent
    | ok done =>
        obtain rfl := Option.some.inj isSent
        exact settled.word

/-- The checkpoint that was under way is remembered from now on, or the last one
still is. -/
theorem Settled.finish
    (settled : course.Settled settings catalog)
    {shipment : Shipment}
    (isUnderWay : shipment ∈ course.shipment)
    (milliseconds : Nat)
    (failures : Nat → Option Disk.Failure) :
    ∃ after,
      (course.finish shipment milliseconds failures).Settled settings
        after := by
  have before := settled.failing failures
  obtain ⟨chapters, lies⟩ := before.lies
  have sentWord := settled.shipped shipment isUnderWay
  let info : Checkpoint.Info :=
    ⟨stamp milliseconds, shipment.txid, Settings.backupImageName shipment.txid⟩
  rw [Course.finish]
  rcases finishCheckpoint_cases settled.tailing (course.disk.failing failures)
    (stamp milliseconds) shipment.txid with
      ⟨state, error, failed⟩ | ⟨saved, done, outcome⟩
  · rw [settled.configured] at failed
    have remembers :=
      before.remembers.save (stamp_le milliseconds) sentWord failed
    rw [state]
    exact ⟨catalog, settled_mended settled.configured settled.tailing
      ⟨chapters, lies.touches (touches_replace failed)⟩ remembers
      fun _ isSent => by cases isSent⟩
  · rw [settled.configured] at done outcome
    have remembers :=
      before.remembers.save (stamp_le milliseconds) sentWord done
    -- The image of the earlier checkpoint is dropped by its name, which leads
    -- to no segment.
    obtain ⟨names, touches, notInfo, -⟩ :=
      touches_dropImage remembers.direct settled.remembers.named
        (show info.imageFile = Settings.backupImageName info.txid from rfl)
    have dropped := remembers.touches touches notInfo
    have liesStill := (lies.touches (touches_replace done)).touches touches
    rcases outcome with ⟨disk, state⟩ | ⟨disk, state⟩
    · rw [disk, state]
      exact ⟨catalog, settled_mended rfl settled.tailing ⟨chapters, liesStill⟩
        dropped fun _ isSent => by cases isSent⟩
    · rw [disk, state]
      refine ⟨_, settled_mended rfl rfl (liesStill.purgeThrough _)
        (dropped.frame (Log.retains_purgeSpans _ _ _ _) fun place outside => ?_)
        fun _ isSent => by cases isSent⟩
      exact Log.item?_purgeThrough _ _ _ (lies.directory ▸ outside)

/-! ## New processes -/

/-- The transaction id of an image that a Backup recovers from is a word. -/
theorem txid_le_of_loadImage
    {image : Option Image}
    (loaded : loadImage settings disk checkpoint = .ok image) :
    ∀ known ∈ image, known.txid ≤ Word.max := by
  cases checkpoint with
  | none =>
      cases loaded
      exact fun _ isKnown => by cases isKnown
  | some info => exact Image.txid_le_of_load loaded

/-- What a Backup recovers to, with whatever settings of the data directory: the
image of its last checkpoint and the segments, on a disk that stays as it is. -/
theorem Settled.recover_eq
    (settled : course.Settled settings catalog)
    {other : Settings}
    (same : other.dataDirectory = settings.dataDirectory)
    {disk : Disk}
    {backup : Backup}
    (recovered : (new other).recover course.disk = ⟨disk, backup, .ok ()⟩) :
    ∃ chapters image, catalog.log.LiesIn other course.disk chapters ∧
      loadImage other course.disk course.backup.lastCheckpoint = .ok image ∧
      let memory : Memory := ⟨image, coveredTxid course.backup.lastCheckpoint,
        chapters.flatMap Log.Chapter.records⟩
      disk = course.disk ∧ backup = { new other with
        catalog :=
          some ⟨memory.tree,
            ⟨other.editsLocation, other.segmentSize, [], memory.txid, [],
              chapters.map Log.Chapter.span, memory.txid⟩, true⟩
        lastCheckpoint := course.backup.lastCheckpoint } := by
  obtain ⟨chapters, lies⟩ := settled.lies
  have liesNow := lies.congr same
  have booked := (settled.remembers.congr same).kept.load
  cases loaded : loadImage other course.disk course.backup.lastCheckpoint with
  | error cause =>
      rw [Backup.recover, rebuild, show (new other).settings = other from rfl,
        Disk.makeDirectories_of_stands
          (Primary.stands_home liesNow.stands)] at recovered
      simp only [booked, loaded] at recovered
      cases recovered
  | ok image =>
      rw [liesNow.recover_eq booked loaded] at recovered
      cases recovered
      exact ⟨chapters, image, liesNow, rfl, rfl, rfl⟩

/-- A Backup that has recovered is settled, with whatever settings of the data
directory. -/
theorem Settled.recover
    (settled : course.Settled settings catalog)
    {other : Settings}
    (same : other.dataDirectory = settings.dataDirectory)
    {disk : Disk}
    {backup : Backup}
    (recovered : (new other).recover course.disk = ⟨disk, backup, .ok ()⟩) :
    ∃ after, Settled other ⟨disk, backup, none⟩ after := by
  obtain ⟨chapters, image, lies, loaded, rfl, rfl⟩ :=
    settled.recover_eq same recovered
  obtain ⟨covered, word⟩ := lies.archived.txid_bounds lies.flushed_le
    ⟨image, _, chapters.flatMap Log.Chapter.records⟩
    rfl (txid_le_of_loadImage loaded)
  exact ⟨_, rfl, rfl, ⟨chapters, lies.reopen covered word⟩,
    settled.remembers.congr same,
    fun _ isSent => by cases isSent⟩

/-- What a Backup recovers to from a fresh data directory. -/
theorem recover_of_fresh
    (fresh : disk.Fresh settings.home)
    {backup : Backup}
    (recovered : (new settings).recover disk = ⟨after, backup, .ok ()⟩) :
    ∃ made, made.Vacant settings.home ∧ after = Primary.started made settings ∧
      backup = Backup.fresh settings := by
  obtain ⟨made, isMade, reliable, vacant⟩ := fresh.made
  have again : (new settings).recover disk = (new settings).recover made := by
    simp only [Backup.recover, rebuild,
      show (new settings).settings = settings from rfl, isMade,
      Disk.makeDirectories_of_stands vacant.stands]
  rw [again, recover_of_vacant reliable vacant] at recovered
  cases recovered
  exact ⟨made, vacant, rfl, rfl⟩

/-- A Backup that has recovered from a fresh data directory is settled. -/
theorem settled_of_fresh
    (fresh : disk.Fresh settings.home)
    {backup : Backup}
    (recovered : (new settings).recover disk = ⟨after, backup, .ok ()⟩)
    (direct : settings.Direct after Settings.imageNameLength) :
    ∃ catalog, Settled settings ⟨after, backup, none⟩ catalog := by
  obtain ⟨made, vacant, rfl, rfl⟩ := recover_of_fresh fresh recovered
  have apart : Settings.checkpointInfoName ≠ Settings.editsName := by decide
  have noInfo :
      (Primary.started made settings).item? settings.checkpointInfoLocation =
        none :=
    (Primary.item?_started made settings
      (Primary.append_ne_append apart settings.home)).trans
      (vacant.empty [Settings.checkpointInfoName] (by simp) (by decide))
  exact ⟨_, rfl, rfl, ⟨[], .of_started vacant⟩,
    ⟨direct, noInfo, fun _ isKnown => by cases isKnown⟩,
    fun _ isSent => by cases isSent⟩

/-- A start on a fresh data directory that is cut off leaves it fresh, or with
the directory of the log. -/
theorem recover_leaves
    (fresh : disk.Fresh settings.home)
    (failures : Nat → Option Disk.Failure) :
    let after := ((new settings).recover (disk.failing failures)).disk
    after.mended.Fresh settings.home ∨
      ∃ made, made.Vacant settings.home ∧
      after.mended = Primary.started made settings := by
  have interrupted := fresh.interrupted failures
  intro after
  have isAfter : after = (rebuild settings (disk.failing failures)).1 := by
    simp only [after, Backup.recover,
      show (new settings).settings = settings from rfl]
    split <;> rename_i rebuilt <;> rw [rebuilt]
    rfl
  rw [isAfter, rebuild]
  cases outcome : (disk.failing failures).makeDirectories settings.home with
  | mk made answer =>
      cases answer with
      | error cause =>
          rw [outcome] at interrupted
          exact .inl interrupted
      | ok done =>
          have vacant := fresh.vacant outcome
          have noInfo :
              Checkpoint.Info.load made settings.checkpointInfoLocation =
                .ok none :=
            Checkpoint.Info.load_eq_none_iff.mpr
              (Primary.has_of_vacant vacant (by decide) (by decide))
          refine Primary.recover_leaves vacant ?_
          simp only [noInfo, loadImage, Option.map_none, Option.getD_none]

/-! ## Lives of a Backup -/

/-- Shut the Backup down on a disk with failures. -/
def shutdown (course : Course) (failures : Nat → Option Disk.Failure) :
    Course :=
  let stopped := course.backup.shutdown (course.disk.failing failures)
  { course with disk := stopped.disk.mended, backup := stopped.state }

/-- Take the image of a transaction id away from the data directory. -/
def lose (course : Course) (txid : Nat) : Course :=
  { course with
    disk := (course.disk.perform
      (.remove (course.backup.settings.backupImageLocation txid))).1 }

/-- What a Backup can have come to in a data directory. It is started there,
several times perhaps and with different settings, it goes on, it is shut down,
and images are taken away. A crash at a step of the disk is the schedule under
which that step and all later ones fail. -/
inductive Reached (directory : String) : Course → Prop
  /-- It is started on a fresh data directory. -/
  | start {settings : Settings} {disk after : Disk} {backup : Backup} :
      settings.dataDirectory = directory → disk.Fresh settings.home →
      (new settings).recover disk = ⟨after, backup, .ok ()⟩ →
      settings.Direct after Settings.imageNameLength →
      Reached directory ⟨after, backup, none⟩
  /-- It is started on what it left behind. -/
  | startAgain {course : Course} {settings : Settings} {after : Disk}
    {backup : Backup} :
      Reached directory course → settings.dataDirectory = directory →
      (new settings).recover course.disk = ⟨after, backup, .ok ()⟩ →
      Reached directory ⟨after, backup, none⟩
  | goOn {course after : Course} {event : Event} :
      Reached directory course → event.Words → course.step event = .ok after →
      Reached directory after
  | shutdown {course : Course} (failures : Nat → Option Disk.Failure) :
      Reached directory course → Reached directory (course.shutdown failures)
  | lose {course : Course} (txid : Nat) :
      Reached directory course → Reached directory (course.lose txid)

/-- What a Backup comes to that is started and goes on with events. -/
theorem reached_of_start
    {disk : Disk}
    {settings : Settings}
    (fresh : disk.Fresh settings.home)
    (direct : ∀ after backup,
      (new settings).recover disk = ⟨after, backup, .ok ()⟩ →
      settings.Direct after Settings.imageNameLength)
    {events : List Event}
    (words : ∀ event ∈ events, event.Words)
    (started : Course.start disk settings events = .ok course) :
    Reached settings.dataDirectory course := by
  rw [Course.start, Course.restart] at started
  simp only [show (new settings).settings = settings from rfl] at started
  split at started
  · cases started
  · rename_i after backup recovered
    exact foldlM_induction
      (fun event present _ _ reached stepped =>
        reached.goOn (words event present) stepped)
      (.start rfl fresh recovered (direct _ _ recovered)) started

/-- Every event leaves a Backup that is settled. -/
theorem Settled.step
    (settled : course.Settled settings catalog)
    {event : Event}
    (words : event.Words)
    {next : Course}
    (stepped : course.step event = .ok next) :
    ∃ after, next.Settled settings after := by
  cases event with
  | deliver records =>
      cases stepped
      exact settled.deliver words
  | write writing failures =>
      cases stepped
      exact settled.write writing failures
  | begin failures =>
      cases stepped
      exact ⟨catalog, settled.begin failures⟩
  | finish milliseconds failures =>
      rw [Course.step] at stepped
      split at stepped
      · cases stepped
        exact ⟨catalog, settled⟩
      · rename_i shipment isUnderWay
        cases stepped
        exact settled.finish isUnderWay milliseconds failures
  | giveUp =>
      cases stepped
      exact ⟨catalog,
        { settled with shipped := fun _ isSent => by cases isSent }⟩
  | restart =>
      rw [Course.step, Course.restart, settled.configured] at stepped
      split at stepped
      · cases stepped
      · rename_i disk backup recovered
        cases stepped
        exact settled.recover rfl recovered

/-- A shutdown writes the log. -/
theorem Settled.shutdown
    (settled : course.Settled settings catalog)
    (failures : Nat → Option Disk.Failure) :
    ∃ after, (course.shutdown failures).Settled settings after := by
  obtain ⟨written, settledNow⟩ := settled.write .forceSync failures
  rw [Course.write, settled.tailing] at settledNow
  obtain rfl := Option.some.inj settledNow.tailing
  rw [Course.shutdown, Backup.shutdown]
  simp only [settled.tailing]
  exact ⟨_, settledNow.configured, rfl, settledNow.lies, settledNow.remembers,
    settledNow.shipped⟩

/-- An image is no file that a Backup needs to go on. -/
theorem Settled.lose
    (settled : course.Settled settings catalog)
    (txid : Nat) :
    (course.lose txid).Settled settings catalog := by
  rw [Course.lose, settled.configured]
  refine settled.touches
    (touches_remove course.disk (Settings.backupImageName txid)) ?_
  exact List.mem_singleton.not.mpr
    (Settings.backupImageName_ne_checkpointInfoName txid).symm

/-- Whatever a Backup has come to, it is settled. -/
theorem Reached.settled
    {directory : String}
    (reached : Reached directory course) :
    ∃ settings catalog, settings.dataDirectory = directory ∧
      course.Settled settings catalog := by
  induction reached with
  | start home fresh recovered direct =>
      obtain ⟨catalog, settled⟩ := settled_of_fresh fresh recovered direct
      exact ⟨_, catalog, home, settled⟩
  | startAgain reached home recovered hypothesis =>
      obtain ⟨settings, catalog, homeBefore, settled⟩ := hypothesis
      obtain ⟨after, settledNow⟩ :=
        settled.recover (home.trans homeBefore.symm) recovered
      exact ⟨_, after, home, settledNow⟩
  | goOn reached words stepped hypothesis =>
      obtain ⟨settings, catalog, home, settled⟩ := hypothesis
      obtain ⟨after, settledNow⟩ := settled.step words stepped
      exact ⟨settings, after, home, settledNow⟩
  | shutdown failures reached hypothesis =>
      obtain ⟨settings, catalog, home, settled⟩ := hypothesis
      obtain ⟨after, settledNow⟩ := settled.shutdown failures
      exact ⟨settings, after, home, settledNow⟩
  | lose txid reached hypothesis =>
      obtain ⟨settings, catalog, home, settled⟩ := hypothesis
      exact ⟨settings, catalog, home, settled.lose txid⟩

end Course
end Backup
end NameService
