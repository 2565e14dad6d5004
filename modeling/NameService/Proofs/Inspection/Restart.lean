import NameService.Backup
import NameService.Inspection
import NameService.Proofs.Primary.Service

/-!
# What an offline replay foretells of a restart

An offline replay goes the way of a restart: it reads the same bookkeeping,
loads the same image and replays the same segments. It takes the last
transaction id from the image and the last record that is replayed, where a node
also asks the names of the segments. Over an archive the two agree: a segment
that ends above the replay floor is replayed to its end, and the image is not
behind the floor.
-/

namespace NameService

/-- The error of a node that fails for the same cause as an inspection. -/
def InspectionError.cause : InspectionError → ServiceError
  | .service cause => cause
  | .log cause => .log cause
  | .tree cause => .tree cause
  | .listing _ cause => .log cause
  | .reading _ cause => .file cause
  | .decoding _ cause => .tree cause

/-- What the namespace of a catalog is now. -/
def Catalog.summary (catalog : Catalog) : Primary.Summary :=
  ⟨catalog.appliedTxid, catalog.tree.digest, catalog.tree.directoryCount,
    catalog.tree.fileCount⟩

namespace Inspection

/-- What is reported of a namespace that was rebuilt. -/
def Rebuilt.summary (rebuilt : Rebuilt) : Primary.Summary :=
  ⟨rebuilt.lastTxid, rebuilt.tree.digest, rebuilt.tree.directoryCount,
    rebuilt.tree.fileCount⟩

/-- What is foretold of a restart on a data directory: its namespace, or its
failure. -/
def foretell (settings : Settings) (disk : Disk) :
    Except ServiceError Primary.Summary :=
  ((rebuild settings disk).mapError InspectionError.cause).map Rebuilt.summary

/-- Only the data directory matters to what is rebuilt. -/
theorem rebuild_congr
    {settings other : Settings}
    (same : other.dataDirectory = settings.dataDirectory)
    (disk : Disk) :
    rebuild other disk = rebuild settings disk := by
  have sameHome : other.home = settings.home := congrArg FilePath.location same
  have samePath : other.path = settings.path := funext fun name =>
    congrArg (FilePath.join · name) same
  have sameStore : other.checkpointStore = settings.checkpointStore := by
    rw [Settings.checkpointStore, Settings.checkpointStore, sameHome, samePath]
  simp only [rebuild, bookkeeping, rebuildFrom, Settings.checkpointInfoLocation,
    Settings.imageLocation, Settings.editsLocation, Settings.resolve, sameHome,
    samePath, sameStore]

theorem foretell_congr
    {settings other : Settings}
    (same : other.dataDirectory = settings.dataDirectory)
    (disk : Disk) :
    foretell other disk = foretell settings disk := by
  rw [foretell, foretell, rebuild_congr same]

end Inspection

/-- That there is no checkpoint means that its file is not there. -/
theorem Checkpoint.Info.load_eq_none_iff {disk : Disk} {location : Location} :
    load disk location = .ok none ↔ disk.has location = false := by
  unfold load
  cases disk.has location with
  | false => simp
  | true =>
      simp only [if_true, reduceCtorEq, iff_false]
      intro loaded
      split at loaded
      · cases loaded
      · split at loaded <;> cases loaded

/-! ## Fresh data directories -/

namespace Inspection

variable {settings : Settings} {disk : Disk}

/-- A fresh data directory is rebuilt to an empty namespace, which a Primary is
opened with on it. -/
theorem foretell_of_fresh (fresh : disk.Fresh settings.home) :
    foretell settings disk =
      (Primary.openAt disk settings).2.map Primary.summary := by
  obtain ⟨made, -, opened⟩ := Primary.openAt_of_fresh fresh
  have noInfo : disk.has settings.checkpointInfoLocation = false :=
    fresh.has_eq_false (by decide) (by decide)
  have noCheckpoint : disk.has settings.checkpointStore.location = false :=
    fresh.has_eq_false (by decide) (by decide)
  have noImage : disk.has settings.imageLocation = false :=
    fresh.has_eq_false (by decide) (by decide)
  have noSegments : disk.has settings.editsLocation = false :=
    fresh.has_eq_false (by decide) (by decide)
  have booked : bookkeeping settings disk =
      .ok (settings.imageLocation, 0) := by
    rw [bookkeeping, Checkpoint.Info.load_eq_none_iff.mpr noInfo,
      Checkpoint.Store.load, noCheckpoint]
    rfl
  simp only [foretell, rebuild, booked, Image.load, noImage, rebuildFrom,
    Recovery.replay, Segment.list, noSegments, opened]
  rfl

end Inspection

/-! ## Archives -/

/-- A log lies in a data directory: the directory of the log is an archive, and
its transaction ids are words. -/
structure Log.LiesIn
    (settings : Settings)
    (disk : Disk)
    (log : Log)
    (chapters : List Log.Chapter) : Prop where
  archived : log.Archived disk chapters
  directory : log.directory = settings.editsLocation
  stands : disk.Stands settings.editsLocation
  word : log.lastTxid ≤ Word.max

namespace Log.LiesIn

variable {settings : Settings} {disk : Disk} {log : Log}
  {chapters : List Log.Chapter}

/-- The log was flushed up to a word. -/
theorem flushed_le (lies : log.LiesIn settings disk chapters) :
    log.flushedTxid ≤ Word.max := by
  have complete := lies.archived.shelved.complete
  have word := lies.word
  simp only [Log.flushedTxid_relisted, Log.lastTxid_relisted] at complete
  omega

/-- It does not matter which settings of a data directory a log lies in. -/
theorem congr
    (lies : log.LiesIn settings disk chapters)
    {other : Settings}
    (same : other.dataDirectory = settings.dataDirectory) :
    log.LiesIn other disk chapters := by
  have sameEdits : other.editsLocation = settings.editsLocation := by
    rw [Settings.editsLocation, Settings.editsLocation, Settings.home,
      Settings.home, same]
  exact ⟨lies.archived, lies.directory.trans sameEdits.symm,
    sameEdits ▸ lies.stands, lies.word⟩

/-- An empty log lies in a data directory once its directory was made there. -/
theorem of_started (vacant : disk.Vacant settings.home) :
    Log.LiesIn settings (Primary.started disk settings)
      (.ofSpans settings.editsLocation settings.segmentSize []) [] := by
  have logged := Primary.logged_started vacant
  exact ⟨logged.shelved.archived logged.filed, rfl,
    Primary.stands_started vacant.stands, Nat.zero_le _⟩

/-- What is rebuilt from an image over an archive. -/
theorem rebuildFrom
    (lies : log.LiesIn settings disk chapters)
    {location : Location}
    {image : Option Image}
    (loaded : Image.load disk location = .ok image)
    (checkpointTxid : Nat) :
    let memory : Memory :=
      ⟨image, checkpointTxid, chapters.flatMap Log.Chapter.records⟩
    Inspection.rebuildFrom settings disk checkpointTxid image =
      .ok ⟨image.map Image.txid, checkpointTxid, memory.floor,
        memory.replayed.length, memory.txid, memory.tree⟩ := by
  intro memory
  have isRoot : Image.namespaceRoot ((image.map Image.root).getD Tree.root) =
      .ok memory.base :=
    memory.namespaceRoot_base fun known isKnown =>
      (Image.rooted_of_load loaded known isKnown).isDirectory
  have replayed :=
    lies.archived.replay (lies.directory ▸ lies.stands) lies.flushed_le memory
      rfl
  have reaches : max (Record.highest memory.floor memory.replayed)
      ((image.map Image.txid).getD 0) = memory.txid := by
    rw [Nat.max_comm]
    exact memory.max_highest (Log.Course.pairwise_flatMap_records
      lies.archived.shelved.ascending)
  have isFloor : Recovery.replayFloor (image.map Image.txid) checkpointTxid =
      memory.floor := rfl
  rw [lies.directory] at replayed
  simp only [Inspection.rebuildFrom, isRoot, isFloor, replayed, reaches]

/-- A data directory without a checkpoint of a Backup is rebuilt to what a
Primary is opened with on it. -/
theorem foretell_eq_openAt
    (lies : log.LiesIn settings disk chapters)
    (noInfo : disk.has settings.checkpointInfoLocation = false) :
    Inspection.foretell settings disk =
      (Primary.openAt disk settings).2.map Primary.summary := by
  have booked : Inspection.bookkeeping settings disk =
      (settings.checkpointStore.load disk).map fun txid =>
        (settings.imageLocation, txid) := by
    rw [Inspection.bookkeeping, Checkpoint.Info.load_eq_none_iff.mpr noInfo]
  have made := Disk.makeDirectories_of_stands (Primary.stands_home lies.stands)
  cases loaded : settings.checkpointStore.load disk with
  | error cause =>
      rw [loaded] at booked
      simp [Inspection.foretell, Inspection.rebuild, booked, Primary.openAt,
        made, loaded, Except.map, Except.mapError, InspectionError.cause]
  | ok txid =>
      rw [loaded] at booked
      cases found : Image.load disk settings.imageLocation with
      | error cause =>
          simp [Inspection.foretell, Inspection.rebuild, booked, Primary.openAt,
            made, loaded, found, Except.map, Except.mapError,
            InspectionError.cause]
      | ok image =>
          have opened :=
            Primary.Service.openAt_of_loaded lies.archived lies.directory
              lies.stands lies.flushed_le loaded found
          have rebuilt := lies.rebuildFrom found txid
          simp only at opened rebuilt
          simp only [Inspection.foretell, Inspection.rebuild, booked,
            Except.map, found, rebuilt, opened]
          rfl

/-- What a Backup recovers to over an archive. -/
theorem recover_eq
    (lies : log.LiesIn settings disk chapters)
    {checkpoint : Option Checkpoint.Info}
    (booked : Checkpoint.Info.load disk settings.checkpointInfoLocation =
      .ok checkpoint)
    {image : Option Image}
    (loaded : Backup.loadImage settings disk checkpoint = .ok image) :
    let memory : Memory := ⟨image, (checkpoint.map Checkpoint.Info.txid).getD 0,
      chapters.flatMap Log.Chapter.records⟩
    (Backup.new settings).recover disk =
      ⟨disk, { Backup.new settings with
        catalog :=
          some ⟨memory.tree, ⟨settings.editsLocation, settings.segmentSize, [],
            memory.txid, [], chapters.map Log.Chapter.span, memory.txid⟩, true⟩
        lastCheckpoint := checkpoint }, .ok ()⟩ := by
  intro memory
  have made := Disk.makeDirectories_of_stands (Primary.stands_home lies.stands)
  have directories : ∀ known ∈ image, known.root.kind = .directory := by
    intro known isKnown
    cases checkpoint with
    | none =>
        cases loaded
        cases isKnown
    | some info => exact (Image.rooted_of_load loaded known isKnown).isDirectory
  have catalog :=
    Catalog.recover_of_archived lies.archived (lies.directory ▸ lies.stands)
      lies.flushed_le directories settings.segmentSize
      ((checkpoint.map Checkpoint.Info.txid).getD 0)
  rw [lies.directory] at catalog
  simp only at catalog
  simp only [Backup.recover, Backup.rebuild, Backup.new, made, booked, loaded,
    catalog, Except.map]
  rfl

/-- A data directory with a checkpoint of a Backup is rebuilt to what a Backup
recovers to on it. -/
theorem foretell_eq_recover
    (lies : log.LiesIn settings disk chapters)
    (isInfo : disk.has settings.checkpointInfoLocation = true) :
    let recovered := (Backup.new settings).recover disk
    (Inspection.foretell settings disk).map some =
      recovered.answer.map fun _ =>
        recovered.state.catalog.map Catalog.summary := by
  intro recovered
  have made := Disk.makeDirectories_of_stands (Primary.stands_home lies.stands)
  cases booked : Checkpoint.Info.load disk settings.checkpointInfoLocation with
  | error cause =>
      simp [recovered, Inspection.foretell, Inspection.rebuild,
        Inspection.bookkeeping, booked, Backup.recover, Backup.rebuild,
        Backup.new, made, Except.map, Except.mapError, InspectionError.cause]
  | ok checkpoint =>
      cases checkpoint with
      | none =>
          rw [Checkpoint.Info.load_eq_none_iff.mp booked] at isInfo
          cases isInfo
      | some info =>
          cases loaded :
            Image.load disk (settings.resolve disk info.imageFile) with
          | error cause =>
              simp [recovered, Inspection.foretell, Inspection.rebuild,
                Inspection.bookkeeping, booked, loaded, Backup.recover,
                Backup.rebuild, Backup.loadImage, Backup.new, made, Except.map,
                Except.mapError, InspectionError.cause]
          | ok image =>
              have outcome := lies.recover_eq booked loaded
              have rebuilt := lies.rebuildFrom loaded info.txid
              simp only [Option.map_some, Option.getD_some] at outcome rebuilt
              simp only [recovered, Inspection.foretell, Inspection.rebuild,
                Inspection.bookkeeping, booked, loaded, rebuilt, outcome]
              rfl

/-- A data directory is rebuilt whenever its bookkeeping and its image can be
read. -/
theorem exists_foretell
    (lies : log.LiesIn settings disk chapters)
    {location : Location}
    {checkpointTxid : Nat}
    (booked : Inspection.bookkeeping settings disk =
      .ok (location, checkpointTxid))
    {image : Option Image}
    (loaded : Image.load disk location = .ok image) :
    ∃ summary, Inspection.foretell settings disk = .ok summary := by
  have rebuilt := lies.rebuildFrom loaded checkpointTxid
  simp only at rebuilt
  exact ⟨_, by
    simp only [Inspection.foretell, Inspection.rebuild, booked, loaded, rebuilt]
    rfl⟩

end Log.LiesIn
end NameService
