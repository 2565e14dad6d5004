import NameService.Recovery

/-!
# The catalog

The namespace together with its edit log. A mutation changes the tree and is
logged in one step, so the log retells the tree.
-/

namespace NameService

/-- A namespace and its edit log. -/
structure Catalog where
  tree : Tree
  log : Log
  /-- Whether mutations are accepted. -/
  running : Bool

namespace Catalog

/-- An empty namespace over a log. -/
def new (log : Log) : Catalog := ⟨Tree.root, log, true⟩

/-- The last transaction id applied and logged. -/
def appliedTxid (catalog : Catalog) : Nat := catalog.log.lastTxid

/-- Rebuild a catalog from an image and the segments of a directory, and open
the log behind the last transaction id recovered. -/
def recover
    (disk : Disk)
    (directory : Location)
    (segmentSize : Nat)
    (image : Option Image)
    (checkpointTxid : Nat) : Disk × Except ServiceError Catalog :=
  let imageTxid := image.map Image.txid
  match Image.namespaceRoot ((image.map Image.root).getD Tree.root) with
  | .error cause => (disk, .error (.tree cause))
  | .ok root =>
      match Recovery.replay disk directory
        (Recovery.replayFloor imageTxid checkpointTxid) root with
      | (_, .error cause) => (disk, .error (.log cause))
      | (tree, .ok progress) =>
          match Log.openAt disk directory segmentSize with
          | (disk, .error cause) => (disk, .error (.log cause))
          | (disk, .ok log) =>
              (disk,
                .ok ⟨tree,
                  log.advanceTo (max (imageTxid.getD 0) progress.lastTxid),
                  true⟩)

/-- Stop accepting mutations. -/
def stop (catalog : Catalog) : Catalog := { catalog with running := false }

/-- Make a directory and every missing one above it, and log it unless the path
names the root. The answer is `false` once the catalog is stopped. -/
def makeDirectory (catalog : Catalog) (path : String) :
    Catalog × Except ServiceError Bool :=
  if catalog.running then
    match catalog.tree.makeDirectory path with
    | (tree, .error cause) =>
        ({ catalog with tree := tree }, .error (.tree cause))
    | (tree, .ok _) =>
        if (Path.components path).isEmpty then
          ({ catalog with tree := tree }, .ok true)
        else
          ({ catalog with
            tree := tree, log := (catalog.log.append (.makeDirectory path)).1 },
            .ok true)
  else (catalog, .ok false)

/-- Create a file, and log it if it was created. The answer is `false` for a
name that is taken and once the catalog is stopped. -/
def createFile (catalog : Catalog) (path : String) :
    Catalog × Except ServiceError Bool :=
  if catalog.running then
    match catalog.tree.createFile path with
    | (tree, .error cause) =>
        ({ catalog with tree := tree }, .error (.tree cause))
    | (tree, .ok false) => ({ catalog with tree := tree }, .ok false)
    | (tree, .ok true) =>
        ({ catalog with
          tree := tree, log := (catalog.log.append (.createFile path)).1 },
          .ok true)
  else (catalog, .ok false)

/-- Apply a record from elsewhere under its transaction id. A record already
applied is skipped, and one that leaves a gap is refused. A record that does not
apply to the tree is logged all the same. -/
def applyRecord (catalog : Catalog) (record : Record) :
    Catalog × Except ServiceError Bool :=
  if record.txid ≤ catalog.appliedTxid then (catalog, .ok false)
  else if record.txid = catalog.appliedTxid + 1 then
    match catalog.log.appendRecord record with
    | (log, .ok ()) =>
        ({ catalog with
          tree := catalog.tree.absorb record.operation, log := log }, .ok true)
    | (log, .error cause) =>
        ({ catalog with
          tree := catalog.tree.absorb record.operation, log := log },
          .error (.log cause))
  else
    (catalog, .error (.log (.outOfOrder (catalog.appliedTxid + 1) record.txid)))

/-- The last transaction id and the image of the tree at it. -/
def snapshot (catalog : Catalog) : Nat × Bytes :=
  (catalog.appliedTxid, Image.encode catalog.appliedTxid catalog.tree)

/-- Carry out an operation of the log. -/
def withLog (catalog : Catalog) (outcome : Outcome Log ε α) :
    Outcome Catalog ε α :=
  outcome.mapState fun log => { catalog with log := log }

end Catalog
end NameService
