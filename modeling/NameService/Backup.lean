import NameService.Catalog
import NameService.Settings

/-!
# The Backup

A node that follows the Primary. Once it has recovered from its own data
directory it tails the Primary's records and takes checkpoints. A checkpoint has
a local beginning, an upload and a report to the Primary, and a local end, so
everything between two calls of the Primary is one function here.
-/

namespace NameService

namespace Catalog

/-- Apply records in order, up to the first that is refused. The answer is how
many of them were new. -/
def applyBatch (catalog : Catalog) :
    List Record → Catalog × Except ServiceError Nat
  | [] => (catalog, .ok 0)
  | record :: rest =>
      match catalog.applyRecord record with
      | (catalog, .error cause) => (catalog, .error cause)
      | (catalog, .ok isNew) =>
          let (catalog, answer) := catalog.applyBatch rest
          (catalog, answer.map fun count => if isNew then count + 1 else count)

@[simp] theorem applyBatch_nil (catalog : Catalog) :
    catalog.applyBatch [] = (catalog, .ok 0) := rfl

end Catalog

/-- A running Backup. -/
structure Backup where
  settings : Settings
  /-- The local copy of the namespace; none until the Backup has recovered. -/
  catalog : Option Catalog
  /-- The last checkpoint that the Primary accepted. -/
  lastCheckpoint : Option Checkpoint.Info
  /-- Whether the Backup was told to stop. -/
  stopped : Bool

namespace Backup

/-- A Backup that has not recovered yet. -/
def new (settings : Settings) : Backup := ⟨settings, none, none, false⟩

/-- Whether a Backup has recovered and follows the Primary. -/
def isTailing (backup : Backup) : Bool := backup.catalog.isSome

/-- The last transaction id applied, zero before recovery. -/
def appliedTxid (backup : Backup) : Nat :=
  (backup.catalog.map Catalog.appliedTxid).getD 0

/-! ## Recovery -/

/-- The image of a checkpoint, if there is a checkpoint and its file is
there. -/
def loadImage (settings : Settings) (disk : Disk) :
    Option Checkpoint.Info → Except ServiceError (Option Image)
  | none => .ok none
  | some info => Image.load disk (settings.resolve disk info.imageFile)

/-- Rebuild the local namespace from the last checkpoint and the segments. -/
def rebuild (settings : Settings) (disk : Disk) :
    Disk × Except ServiceError (Option Checkpoint.Info × Catalog) :=
  match disk.makeDirectories settings.home with
  | (disk, .error cause) => (disk, .error (.file cause))
  | (disk, .ok ()) =>
      match Checkpoint.Info.load disk settings.checkpointInfoLocation with
      | .error cause => (disk, .error cause)
      | .ok info =>
          match loadImage settings disk info with
          | .error cause => (disk, .error cause)
          | .ok image =>
              let (disk, recovered) :=
                Catalog.recover disk settings.editsLocation settings.segmentSize
                  image ((info.map Checkpoint.Info.txid).getD 0)
              (disk, recovered.map fun catalog => (info, catalog))

/-- Recover from the data directory and begin to follow the Primary. A Backup
recovers once. -/
def recover (backup : Backup) (disk : Disk) :
    Outcome Backup ServiceError Unit :=
  match rebuild backup.settings disk with
  | (disk, .error cause) => ⟨disk, backup, .error cause⟩
  | (disk, .ok (info, catalog)) =>
      if backup.isTailing then
        ⟨disk, backup, .error (.internal "Backup recovered twice")⟩
      else
        ⟨disk, { backup with catalog := some catalog, lastCheckpoint := info },
          .ok ()⟩

/-! ## Following -/

/-- Apply a batch of records of the Primary. The answer is how many of them were
new. -/
def absorb (backup : Backup) (records : List Record) :
    Backup × Except ServiceError Nat :=
  match backup.catalog with
  | none => (backup, .ok 0)
  | some catalog =>
      let (catalog, answer) := catalog.applyBatch records
      ({ backup with catalog := some catalog }, answer)

/-! ## Checkpoints -/

/-- An image on its way to the Primary. -/
structure Shipment where
  /-- The transaction id that the image covers. -/
  txid : Nat
  /-- The content of the image file. -/
  content : Bytes
  deriving DecidableEq, Repr

/-- Write the local image of a checkpoint. There is none to take before recovery
or without any record since the last one. -/
def beginCheckpoint (backup : Backup) (disk : Disk) :
    Disk × Except ServiceError (Option Shipment) :=
  match backup.catalog with
  | none => (disk, .ok none)
  | some catalog =>
      let (txid, content) := catalog.snapshot
      if backup.lastCheckpoint.map Checkpoint.Info.txid = some txid then
        (disk, .ok none)
      else
        match disk.replace (backup.settings.backupImageLocation txid)
          content with
        | (disk, .error cause) => (disk, .error (.file cause))
        | (disk, .ok ()) => (disk, .ok (some ⟨txid, content⟩))

/-- Delete the image of an earlier checkpoint, unless a new one has its name. A
deletion that fails is ignored. -/
def dropImage
    (settings : Settings)
    (disk : Disk)
    (earlier : Option Checkpoint.Info)
    (current : String) : Disk :=
  match earlier with
  | none => disk
  | some info =>
      if info.imageFile = current then disk
      else (disk.perform (.remove (settings.resolve disk info.imageFile))).1

/-- Delete the local segments that a checkpoint covers, if the settings say
so. -/
def purge (backup : Backup) (disk : Disk) (txid : Nat) :
    Outcome Backup ServiceError Unit :=
  match backup.catalog with
  | none => ⟨disk, backup, .ok ()⟩
  | some catalog =>
      if backup.settings.purgesSegments then
        let purged := catalog.withLog (catalog.log.purgeThrough disk txid)
        ⟨purged.disk, { backup with catalog := some purged.state },
          (purged.answer.mapError ServiceError.log).map fun _ => ()⟩
      else ⟨disk, backup, .ok ()⟩

/-- Remember a checkpoint that the Primary accepted, and clean up behind it. The
earlier image goes only once the new one is remembered. -/
def finishCheckpoint (backup : Backup) (disk : Disk) (now txid : Nat) :
    Outcome Backup ServiceError Unit :=
  let info : Checkpoint.Info := ⟨now, txid, Settings.backupImageName txid⟩
  match info.save disk backup.settings.checkpointInfoLocation with
  | (disk, .error cause) => ⟨disk, backup, .error (.file cause)⟩
  | (disk, .ok ()) =>
      let disk :=
        dropImage backup.settings disk backup.lastCheckpoint info.imageFile
      purge { backup with lastCheckpoint := some info } disk txid

/-! ## Stopping -/

/-- Stop following and flush the local log. -/
def shutdown (backup : Backup) (disk : Disk) :
    Outcome Backup ServiceError Unit :=
  let backup := { backup with stopped := true }
  match backup.catalog with
  | none => ⟨disk, backup, .ok ()⟩
  | some catalog =>
      let catalog := catalog.stop
      let flushed := catalog.withLog (catalog.log.forceSync disk)
      ⟨flushed.disk, { backup with catalog := some flushed.state },
        (flushed.answer.mapError ServiceError.log).map fun _ => ()⟩

end Backup
end NameService
