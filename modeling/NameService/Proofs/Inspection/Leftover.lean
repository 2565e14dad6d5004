import NameService.Proofs.Backup.Keeping
import NameService.Proofs.Primary.Traffic

/-!
# Offline replays of what a node left behind

Wherever a Primary or a Backup was cut off, an offline replay of its data
directory foretells what the next start makes of it, be it a namespace or an
error. Only the directory of the log matters to that: images may be torn, lost
or ahead of the log, and the checkpoint id may be ahead of them.
-/

namespace NameService

/-! ## Lives of a Primary -/

namespace Primary
namespace Service

/-- What handlers of the image channel do on a disk with failures. -/
def handle
    (service : Service)
    (steps : List Disk.Step)
    (failures : Nat → Option Disk.Failure) : Service :=
  { service with
    disk := ((service.disk.failing failures).performAll steps).1.mended }

/-- What a Primary can have come to in a data directory. It is started there,
several times perhaps and with different settings, and it takes traffic. The
handlers of its image channel may be in the middle of their work at any time, so
that an image may be torn. A crash at a step of the disk is the schedule under
which that step and all later ones fail. -/
inductive Reached (directory : String) : Service → Prop
  /-- It is started on a fresh data directory. -/
  | start {settings : Settings} {disk after : Disk} {primary : Primary} :
      settings.dataDirectory = directory → disk.Fresh settings.home →
      openAt disk settings = (after, .ok primary) →
      Reached directory ⟨after, primary, primary.catalog.appliedTxid⟩
  /-- It is started on what it left behind. -/
  | startAgain {service : Service} {settings : Settings} {after : Disk}
    {primary : Primary} :
      Reached directory service → settings.dataDirectory = directory →
      openAt service.disk settings = (after, .ok primary) →
      Reached directory ⟨after, primary, primary.catalog.appliedTxid⟩
  | take {service after : Service} (traffic : Traffic) :
      Reached directory service → service.take traffic = .ok after →
        Reached directory after
  /-- Handlers of the image channel write the scratch file or the image. -/
  | handle {service : Service} {steps : List Disk.Step}
    (failures : Nat → Option Disk.Failure) :
      Reached directory service →
      (∀ step ∈ steps, step.touches ⊆ [service.primary.settings.imageLocation,
        Disk.scratch service.primary.settings.imageLocation]) →
      Reached directory (service.handle steps failures)

/-- What a Primary comes to that is exposed to traffic. -/
theorem reached_of_expose
    {disk : Disk}
    {settings : Settings}
    (fresh : disk.Fresh settings.home)
    {traffic : List Traffic}
    {service : Service}
    (exposed : expose disk settings traffic = .ok service) :
    Reached settings.dataDirectory service := by
  rw [expose] at exposed
  split at exposed
  · cases exposed
  · rename_i after primary opened
    exact foldlM_induction
      (fun piece _ _ _ reached taken => reached.take piece taken)
      (.start rfl fresh opened) exposed

/-- No segment that a service lists is asked to be served, so it may give up
any. -/
def unasked (service : Service) : Service :=
  { service with openedTxid := Word.max }

variable {settings : Settings} {service after : Service}

/-- Whatever a Primary takes, it stays sound as far as nothing is asked to be
served. -/
theorem sound_of_take
    (sound : service.unasked.Sound settings fun _ => True)
    (traffic : Traffic)
    (taken : service.take traffic = .ok after) :
    after.unasked.Sound settings fun _ => True := by
  cases traffic with
  | purge txid failures =>
      cases taken
      exact sound.purge_unserved txid failures
  | serve event =>
      -- What an event does, does not depend on what the process was started
      -- with.
      have stepped : ∃ next, service.unasked.step event = .ok next ∧
          next.unasked = after.unasked := by
        cases event with
        | mutate operation =>
            simp only [Service.take, Service.step] at taken
            split at taken <;> rename_i next <;> cases taken
            · exact ⟨_, if_pos next, rfl⟩
            · exact ⟨_, if_neg next, rfl⟩
        | restart => exact ⟨after, taken, rfl⟩
        | write | upload | report | fetch | attend | close =>
            cases taken
            exact ⟨_, rfl, rfl⟩
      obtain ⟨next, isStep, same⟩ := stepped
      rw [← same]
      exact (sound.step (fun _ _ => trivial) isStep).unserved
        next.primary.checkpointTxid

/-- The log of a Primary lies in its data directory. -/
theorem Sound.lies
    {accepts : Record → Prop}
    (sound : service.Sound settings accepts) :
    ∃ chapters,
      service.primary.catalog.log.LiesIn settings service.disk chapters ∧
      ∀ record ∈ chapters.flatMap Log.Chapter.records, accepts record := by
  obtain ⟨chapters, archived, accepted⟩ := sound.archived
  exact ⟨chapters, ⟨archived, sound.directory, sound.stands, sound.word⟩,
    accepted⟩

/-- The handlers of the image channel leave the log alone. -/
theorem sound_handle
    (sound : service.unasked.Sound settings fun _ => True)
    {steps : List Disk.Step}
    (within : ∀ step ∈ steps, step.touches ⊆ [settings.imageLocation,
      Disk.scratch settings.imageLocation])
    (failures : Nat → Option Disk.Failure) :
    (service.handle steps failures).unasked.Sound settings fun _ => True := by
  have touches : Backup.Touches settings [Settings.imageName, "fsimage.tmp"]
      (service.disk.failing failures)
      ((service.disk.failing failures).performAll steps).1 := by
    refine Backup.touches_performAll _ fun step isStep place touched => ?_
    rcases List.mem_cons.mp (within step isStep touched) with rfl | isScratch
    · exact ⟨_, List.mem_cons_self, rfl⟩
    · rw [List.mem_singleton.mp isScratch, scratch_image]
      exact ⟨_, List.mem_cons_of_mem _ List.mem_cons_self, rfl⟩
  obtain ⟨chapters, lies, accepted⟩ := sound.lies
  have liesStill :=
    ((lies.failing failures).touches touches).failing fun _ => none
  exact { sound with
    stands := liesStill.stands,
    archived := ⟨chapters, liesStill.archived, accepted⟩ }

/-- A Primary that has started on an archive is sound, with whatever settings of
the data directory. -/
theorem sound_of_startAgain
    (sound : service.unasked.Sound settings fun _ => True)
    {other : Settings}
    (same : other.dataDirectory = settings.dataDirectory)
    {disk : Disk}
    {primary : Primary}
    (opened : openAt service.disk other = (disk, .ok primary)) :
    Sound other (fun _ => True) ⟨disk, primary, Word.max⟩ := by
  obtain ⟨chapters, lies, accepted⟩ := sound.lies
  have liesNow := lies.congr same
  exact (sound_of_openAt liesNow.archived accepted liesNow.directory
    liesNow.stands liesNow.flushed_le opened).unserved primary.checkpointTxid

/-- Whatever a Primary has come to, it is sound. -/
theorem Reached.sound
    {directory : String}
    (reached : Reached directory service) :
    ∃ settings, settings.dataDirectory = directory ∧
      service.unasked.Sound settings fun _ => True := by
  induction reached with
  | start home fresh opened =>
      obtain ⟨made, vacant, isOpened⟩ := openAt_of_fresh fresh
      rw [isOpened] at opened
      cases opened
      exact ⟨_, home, (sound_started vacant _).unserved 0⟩
  | startAgain reached home opened hypothesis =>
      obtain ⟨settings, homeBefore, sound⟩ := hypothesis
      exact ⟨_, home,
        sound_of_startAgain sound (home.trans homeBefore.symm) opened⟩
  | take traffic reached taken hypothesis =>
      obtain ⟨settings, home, sound⟩ := hypothesis
      exact ⟨settings, home, sound_of_take sound traffic taken⟩
  | handle failures reached within hypothesis =>
      obtain ⟨settings, home, sound⟩ := hypothesis
      have configured : _ = settings := sound.configured
      exact ⟨settings, home, sound_handle sound (configured ▸ within) failures⟩

end Service
end Primary

/-! ## Data directories that are left behind -/

/-- A data directory that a Primary or a Backup left behind, wherever it was cut
off. -/
inductive LeftBehind (directory : String) : Disk → Prop
  /-- The first start of a Primary was cut off. -/
  | opening {settings : Settings} {disk : Disk}
    (failures : Nat → Option Disk.Failure) :
      settings.dataDirectory = directory → disk.Fresh settings.home →
      LeftBehind directory
        (Primary.openAt (disk.failing failures) settings).1.mended
  | primary {service : Primary.Service} :
      Primary.Service.Reached directory service →
        LeftBehind directory service.disk
  /-- The first start of a Backup was cut off. -/
  | recovering {settings : Settings} {disk : Disk}
    (failures : Nat → Option Disk.Failure) :
      settings.dataDirectory = directory → disk.Fresh settings.home →
      LeftBehind directory
        ((Backup.new settings).recover (disk.failing failures)).disk.mended
  | backup {course : Backup.Course} :
      Backup.Course.Reached directory course → LeftBehind directory course.disk

/-- What a first start that was cut off leaves is fresh for any settings of the
data directory, or a log lies in it. -/
theorem Log.LiesIn.of_leaves
    {settings other : Settings}
    (same : other.dataDirectory = settings.dataDirectory)
    {disk : Disk}
    (leaves : disk.Fresh other.home ∨
      ∃ made, made.Vacant other.home ∧ disk = Primary.started made other) :
    disk.Fresh settings.home ∨
      ∃ log chapters, Log.LiesIn settings disk log chapters := by
  rcases leaves with fresh | ⟨made, vacant, rfl⟩
  · have sameHome : other.home = settings.home :=
      congrArg FilePath.location same
    exact .inl (sameHome ▸ fresh)
  · exact .inr ⟨_, [], (Log.LiesIn.of_started vacant).congr same.symm⟩

/-- In a data directory that was left behind nothing is yet, or a log lies in
it. -/
theorem LeftBehind.cases_log
    {settings : Settings}
    {disk : Disk}
    (left : LeftBehind settings.dataDirectory disk) :
    disk.Fresh settings.home ∨
      ∃ log chapters, Log.LiesIn settings disk log chapters := by
  cases left with
  | opening failures same fresh =>
      exact Log.LiesIn.of_leaves same (Primary.openAt_leaves fresh failures)
  | primary reached =>
      obtain ⟨other, same, sound⟩ := reached.sound
      obtain ⟨chapters, lies, -⟩ := sound.lies
      exact .inr ⟨_, chapters, lies.congr same.symm⟩
  | recovering failures same fresh =>
      exact Log.LiesIn.of_leaves same
        (Backup.Course.recover_leaves fresh failures)
  | backup reached =>
      obtain ⟨other, catalog, same, settled⟩ := reached.settled
      obtain ⟨chapters, lies⟩ := settled.lies
      exact .inr ⟨_, chapters, lies.congr same.symm⟩

namespace Inspection

/-- What is foretold of a data directory is what the next start makes of it. -/
structure Foretells
    (foretold : Except ServiceError Primary.Summary)
    (settings : Settings)
    (disk : Disk) : Prop where
  /-- Without a checkpoint of a Backup it is what a Primary is opened with. -/
  opened : disk.has settings.checkpointInfoLocation = false →
    foretold = (Primary.openAt disk settings).2.map Primary.summary
  /-- With one it is what a Backup recovers to. -/
  recovered : disk.has settings.checkpointInfoLocation = true →
    let recovered := (Backup.new settings).recover disk
    foretold.map some = recovered.answer.map fun _ =>
      recovered.state.catalog.map Catalog.summary
  /-- It is no failure if the bookkeeping and the image can be read, as a
  missing image is. -/
  readable : ∀ location checkpointTxid image,
    bookkeeping settings disk = .ok (location, checkpointTxid) →
    Image.load disk location = .ok image → ∃ summary, foretold = .ok summary

/-- An offline replay of a data directory that a node left behind foretells the
restart, with whatever settings the node is restarted in it. -/
theorem foretells_restart
    {directory : String}
    {disk : Disk}
    (left : LeftBehind directory disk)
    {settings : Settings}
    (home : settings.dataDirectory = directory) :
    Foretells (foretell (.ofDirectory directory) disk) settings disk := by
  subst home
  have sameDirectory :
      (Settings.ofDirectory settings.dataDirectory).dataDirectory =
      settings.dataDirectory := rfl
  rw [foretell_congr sameDirectory]
  rcases left.cases_log with fresh | ⟨log, chapters, lies⟩
  · have foretold := foretell_of_fresh fresh
    have noInfo : disk.has settings.checkpointInfoLocation = false :=
      fresh.has_eq_false (by decide) (by decide)
    refine ⟨fun _ => foretold, fun isInfo => ?_, fun _ _ _ _ _ => ?_⟩
    · rw [noInfo] at isInfo
      cases isInfo
    · obtain ⟨made, -, opened⟩ := Primary.openAt_of_fresh fresh
      rw [foretold, opened]
      exact ⟨_, rfl⟩
  · exact ⟨lies.foretell_eq_openAt, lies.foretell_eq_recover,
      fun _ _ _ booked loaded => lies.exists_foretell booked loaded⟩

/-- A Backup that took a checkpoint, purged the log up to it and was delivered
one more record. The writing of that one fails at first. -/
def keptEvents : List Backup.Event :=
  [.deliver [⟨1, .makeDirectory "/a"⟩, ⟨2, .createFile "/a/b"⟩],
    .write .roll fun _ => none, .begin fun _ => none,
    .finish 1000 fun _ => none, .deliver [⟨3, .makeDirectory "/c"⟩],
    .write .roll fun _ => some ⟨.other "", 1⟩, .write .forceSync fun _ => none]

/-- A Primary that crashed with an image ahead of its log restarts at the image,
and a Backup that lost its image at its last record. -/
theorem foretells_restart_of_lost_image :
    ∃ service course,
      Primary.expose Disk.empty (Settings.ofDirectory ".")
        Primary.roughTraffic = .ok service ∧
      Backup.Course.start Disk.empty (Settings.ofDirectory ".") keptEvents =
        .ok course ∧
      (course.lose 2).disk.has ["checkpoint-info.meta"] = true ∧
      (course.lose 2).disk.has ["fsimage-2.json"] = false ∧
      (foretell (.ofDirectory ".") service.disk).toOption.map
        Primary.Summary.txid = some 10 ∧
      (foretell (.ofDirectory ".") (course.lose 2).disk).toOption.map
        Primary.Summary.txid =
        some 3 ∧
      Foretells (foretell (.ofDirectory ".") service.disk) (.ofDirectory ".")
        service.disk ∧
      Foretells (foretell (.ofDirectory ".") (course.lose 2).disk)
        (.ofDirectory ".") (course.lose 2).disk := by
  have fresh : Disk.empty.Fresh (Settings.ofDirectory ".").home :=
    Disk.Vacant.fresh Disk.vacant_empty fun _ => rfl
  have direct : ∀ after backup,
      (Backup.new (Settings.ofDirectory ".")).recover Disk.empty =
        ⟨after, backup, .ok ()⟩ →
        (Settings.ofDirectory ".").Direct after Settings.imageNameLength := by
    intro after backup recovered
    have stands : after.Stands (Settings.ofDirectory ".").home := by
      have isAfter : _ = after := congrArg Outcome.disk recovered
      rw [← isAfter]
      decide +kernel
    exact Settings.direct_of_noUp stands (by decide) (by decide)
  have words : ∀ event ∈ keptEvents, event.Words := by
    simp [keptEvents, Backup.Event.Words, Word.max]
  have atTen : (Primary.expose Disk.empty (Settings.ofDirectory ".")
      Primary.roughTraffic).toOption.map (fun service =>
        (foretell (.ofDirectory ".") service.disk).toOption.map
          Primary.Summary.txid) =
      some (some 10) := by decide +kernel
  have atThree : (Backup.Course.start Disk.empty (Settings.ofDirectory ".")
      keptEvents).toOption.map
      (fun course => ((course.lose 2).disk.has ["checkpoint-info.meta"],
        (course.lose 2).disk.has ["fsimage-2.json"],
        (foretell (.ofDirectory ".") (course.lose 2).disk).toOption.map
          Primary.Summary.txid)) =
      some (true, false, some 3) := by decide +kernel
  cases exposed :
    Primary.expose Disk.empty (Settings.ofDirectory ".")
      Primary.roughTraffic with
  | error cause =>
      rw [exposed] at atTen
      cases atTen
  | ok service =>
      cases started :
        Backup.Course.start Disk.empty (Settings.ofDirectory ".")
          keptEvents with
      | error cause =>
          rw [started] at atThree
          cases atThree
      | ok course =>
          simp only [exposed, Except.toOption, Option.map_some,
            Option.some.injEq] at atTen
          simp only [started, Except.toOption, Option.map_some,
            Option.some.injEq, Prod.mk.injEq] at atThree
          obtain ⟨isInfo, noImage, reaches⟩ := atThree
          exact ⟨service, course, rfl, rfl, isInfo, noImage, atTen, reaches,
            foretells_restart
              (.primary (Primary.Service.reached_of_expose fresh exposed)) rfl,
            foretells_restart
              (.backup
                ((Backup.Course.reached_of_start fresh direct words
                  started).lose 2)) rfl⟩

end Inspection
end NameService
