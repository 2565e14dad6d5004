import NameService.Catalog
import NameService.Digest
import NameService.Fleet
import NameService.Log.Fetch
import NameService.Settings

/-!
# The Primary

The node that takes mutations. It owns the catalog of its data directory, serves
its records to Backups, keeps the checkpoint id up to which segments may go, and
looks after the fleet of storage nodes.
-/

namespace NameService

/-- A running Primary. -/
structure Primary where
  settings : Settings
  catalog : Catalog
  fetcher : Fetcher
  fleet : Fleet
  /-- The checkpoint id in force. -/
  checkpointTxid : Nat
  /-- Whether the background tasks and the servers were told to stop. -/
  closed : Bool

namespace Primary

/-- Recover from the data directory. -/
def openAt (disk : Disk) (settings : Settings) :
    Disk × Except ServiceError Primary :=
  match disk.makeDirectories settings.home with
  | (disk, .error cause) => (disk, .error (.file cause))
  | (disk, .ok ()) =>
      match settings.checkpointStore.load disk with
      | .error cause => (disk, .error cause)
      | .ok checkpointTxid =>
          match Image.load disk settings.imageLocation with
          | .error cause => (disk, .error cause)
          | .ok image =>
              let (disk, recovered) :=
                Catalog.recover disk settings.editsLocation settings.segmentSize
                  image checkpointTxid
              (disk, recovered.map fun catalog =>
                ⟨settings, catalog, Fetcher.new settings.batchSize, .empty,
                  checkpointTxid, false⟩)

/-- Carry out an operation of the catalog. -/
def withCatalog
    (primary : Primary)
    (change : Catalog → Catalog × Except ServiceError α) :
    Primary × Except ServiceError α :=
  let (catalog, answer) := change primary.catalog
  ({ primary with catalog := catalog }, answer)

/-- Make a directory and every missing one above it. -/
def makeDirectory (primary : Primary) (path : String) :
    Primary × Except ServiceError Bool :=
  primary.withCatalog fun catalog => catalog.makeDirectory path

/-- Create a file. -/
def createFile (primary : Primary) (path : String) :
    Primary × Except ServiceError Bool :=
  primary.withCatalog fun catalog => catalog.createFile path

/-- Make a storage node a member. -/
def register (primary : Primary) (id : NodeId) (now : Nat) : Primary :=
  { primary with fleet := primary.fleet.register id now }

/-- Note that a storage node was heard of. -/
def heartbeat (primary : Primary) (id : NodeId) (now : Nat) :
    Primary × Except ServiceError Unit :=
  let (fleet, answer) := primary.fleet.heartbeat id now
  ({ primary with fleet := fleet }, answer)

/-- Place a file of so many bytes. -/
def allocate (primary : Primary) (size : Nat) : Primary × List Member :=
  let (fleet, targets) :=
    primary.fleet.allocate size primary.settings.replicaCount
  ({ primary with fleet := fleet }, targets)

/-- Remove the storage nodes that are silent at a time. -/
def evictStale (primary : Primary) (now : Nat) : Primary × List NodeId :=
  let (fleet, evicted) :=
    primary.fleet.evictStale now primary.settings.heartbeatTimeout
  ({ primary with fleet := fleet }, evicted)

/-- The records behind a transaction id, at most one batch; none once the
catalog is stopped. -/
def fetchEdits (primary : Primary) (disk : Disk) (after : Nat) :
    Primary × Except ServiceError (List Record) :=
  if primary.catalog.running then
    let (fetcher, answer) :=
      primary.fetcher.fetch disk primary.catalog.log after
    ({ primary with fetcher := fetcher }, answer.mapError .log)
  else (primary, .ok [])

/-- Record a checkpoint that a Backup reports. Regressions are ignored, and an
id beyond the log is refused. The answer is the checkpoint id in force. -/
def updateCheckpoint (primary : Primary) (disk : Disk) (txid : Nat) :
    Outcome Primary ServiceError Nat :=
  if txid ≤ primary.checkpointTxid then
    ⟨disk, primary, .ok primary.checkpointTxid⟩
  else if primary.catalog.appliedTxid < txid then
    ⟨disk, primary,
      .error (.input (.checkpointAhead txid primary.catalog.appliedTxid))⟩
  else
    match primary.settings.checkpointStore.save disk txid with
    | (disk, .error cause) => ⟨disk, primary, .error (.file cause)⟩
    | (disk, .ok ()) =>
        let primary := { primary with checkpointTxid := txid }
        if primary.settings.purgesSegments then
          let purged :=
            primary.catalog.withLog (primary.catalog.log.purgeThrough disk txid)
          ⟨purged.disk, { primary with catalog := purged.state },
            match purged.answer with
            | .ok _ => .ok txid
            | .error cause => .error (.log cause)⟩
        else ⟨disk, primary, .ok txid⟩

/-- Stop accepting mutations, flush the log, persist the checkpoint id and tell
the background tasks to stop. A failure to flush is reported before one to
persist. -/
def close (primary : Primary) (disk : Disk) :
    Outcome Primary ServiceError Unit :=
  let catalog := primary.catalog.stop
  let flushed := catalog.withLog (catalog.log.forceSync disk)
  let (disk, saved) :=
    primary.settings.checkpointStore.save flushed.disk primary.checkpointTxid
  let primary := { primary with catalog := flushed.state, closed := true }
  match flushed.answer, saved with
  | .error cause, _ => ⟨disk, primary, .error (.log cause)⟩
  | .ok _, .error cause => ⟨disk, primary, .error (.file cause)⟩
  | .ok _, .ok () => ⟨disk, primary, .ok ()⟩

/-- What the namespace is at a transaction id. -/
structure Summary where
  txid : Nat
  digest : String
  directories : Nat
  files : Nat
  deriving DecidableEq, Repr

/-- What the namespace is now. -/
def summary (primary : Primary) : Summary :=
  ⟨primary.catalog.appliedTxid, primary.catalog.tree.digest,
    primary.catalog.tree.directoryCount, primary.catalog.tree.fileCount⟩

end Primary
end NameService
