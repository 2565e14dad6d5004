import NameService.Backup
import NameService.Fleet.Agent
import NameService.Remote

/-!
# The cluster

A Primary and its Backups on one disk, each in a directory of its own, with a
network that is there or not. Every start of the Primary listens at a new
address, so a Backup that was started earlier does not reach it.
-/

namespace NameService

/-- What the nodes of a cluster share. -/
structure Cluster where
  disk : Disk
  /-- The running Primary, if any. -/
  primary : Option Primary
  /-- How often a Primary was started. -/
  starts : Nat
  /-- Whether calls between the nodes arrive. -/
  connected : Bool

/-- A Backup and the start of the Primary whose address it knows. -/
structure Follower where
  backup : Backup
  primaryStart : Nat

namespace Cluster

/-- A cluster before the first start of a Primary. -/
def new (disk : Disk) (connected : Bool) : Cluster := ⟨disk, none, 0, connected⟩

/-- Start a Primary. One that runs is dropped without a flush. -/
def startPrimary (cluster : Cluster) (settings : Settings) :
    Cluster × Except ServiceError Unit :=
  match Primary.openAt cluster.disk settings with
  | (disk, .ok primary) =>
      ({ cluster with
        disk := disk, primary := some primary, starts := cluster.starts + 1 },
        .ok ())
  | (disk, .error cause) =>
      ({ cluster with
        disk := disk, primary := none, starts := cluster.starts + 1 },
        .error cause)

/-- Drop the Primary without a flush. -/
def crashPrimary (cluster : Cluster) : Cluster :=
  { cluster with primary := none }

/-- Whether a call to a start of the Primary arrives. Its servers are gone once
it is closed. -/
def reaches (cluster : Cluster) (start : Nat) : Bool :=
  cluster.connected && cluster.starts == start &&
    !((cluster.primary.map Primary.closed).getD true)

/-- Make a call to a start of the Primary. -/
def call (cluster : Cluster) (start : Nat)
    (exchange : Disk → Option Primary →
      Outcome (Option Primary) ServiceError α) :
    Cluster × Except ServiceError α :=
  if cluster.reaches start then
    let outcome := exchange cluster.disk cluster.primary
    ({ cluster with disk := outcome.disk, primary := outcome.state },
      outcome.answer)
  else (cluster, (exchange cluster.disk none).answer)

/-- Ask a start of the Primary. -/
def ask (cluster : Cluster) (start : Nat)
    (request : Disk → Primary → Outcome Primary ServiceError α) :
    Cluster × Except ServiceError α :=
  cluster.call start fun disk primary => Remote.ask disk primary request

/-- Carry out something of a Backup on the disk. -/
def locally
    (cluster : Cluster)
    (follower : Follower)
    (outcome : Outcome Backup ServiceError α) :
    Cluster × Follower × Except ServiceError α :=
  ({ cluster with disk := outcome.disk },
    { follower with backup := outcome.state }, outcome.answer)

/-- Recover a Backup. -/
def recover (cluster : Cluster) (follower : Follower) :
    Cluster × Follower × Except ServiceError Unit :=
  cluster.locally follower (follower.backup.recover cluster.disk)

/-- Stop a Backup. -/
def shutdown (cluster : Cluster) (follower : Follower) :
    Cluster × Follower × Except ServiceError Unit :=
  cluster.locally follower (follower.backup.shutdown cluster.disk)

/-- Fetch a batch from the Primary and apply it. The answer is how many records
were new; none before recovery. -/
def fetchOnce (cluster : Cluster) (follower : Follower) :
    Cluster × Follower × Except ServiceError Nat :=
  if follower.backup.isTailing then
    match cluster.ask follower.primaryStart
      (Remote.fetchEdits follower.backup.appliedTxid) with
    | (cluster, .error cause) => (cluster, follower, .error cause)
    | (cluster, .ok records) =>
        let (backup, answer) := follower.backup.absorb records
        (cluster, { follower with backup := backup }, answer)
  else (cluster, follower, .ok 0)

/-- Upload a shipment to the Primary, report it, and remember it. -/
def ship
    (cluster : Cluster)
    (follower : Follower)
    (now : Nat)
    (shipment : Backup.Shipment) :
    Cluster × Follower × Except ServiceError (Option Nat) :=
  match cluster.call follower.primaryStart
    (Remote.uploadImage shipment.content) with
  | (cluster, .error cause) => (cluster, follower, .error cause)
  | (cluster, .ok ()) =>
      match cluster.ask follower.primaryStart
        (Remote.updateCheckpoint shipment.txid) with
      | (cluster, .error cause) => (cluster, follower, .error cause)
      | (cluster, .ok _) =>
          let (cluster, follower, answer) := cluster.locally follower
            (follower.backup.finishCheckpoint cluster.disk now shipment.txid)
          (cluster, follower, answer.map fun _ => some shipment.txid)

/-- Take a checkpoint. The answer is its transaction id, or nothing if there was
none to take. -/
def checkpointOnce (cluster : Cluster) (follower : Follower) (now : Nat) :
    Cluster × Follower × Except ServiceError (Option Nat) :=
  match follower.backup.beginCheckpoint cluster.disk with
  | (disk, .error cause) =>
      ({ cluster with disk := disk }, follower, .error cause)
  | (disk, .ok none) => ({ cluster with disk := disk }, follower, .ok none)
  | (disk, .ok (some shipment)) =>
      ship { cluster with disk := disk } follower now shipment

/-! ## Running by itself -/

/-- Fetch so many times at most, until a fetch brings nothing new. -/
def fetchAll (cluster : Cluster) (follower : Follower) :
    Nat → Cluster × Follower
  | 0 => (cluster, follower)
  | count + 1 =>
      match cluster.fetchOnce follower with
      | (cluster, follower, .ok 0) => (cluster, follower)
      | (cluster, follower, .ok _) => fetchAll cluster follower count
      | (cluster, follower, .error _) => (cluster, follower)

/-- The last transaction id of the Primary, zero if none runs. -/
def primaryTxid (cluster : Cluster) : Nat :=
  match cluster.primary with
  | none => 0
  | some primary => primary.catalog.appliedTxid

/-- Whether a Backup and the checkpoints of both nodes stand at the last
transaction id of the Primary. -/
def hasConverged (cluster : Cluster) (follower : Follower) : Bool :=
  match cluster.primary with
  | none => false
  | some primary =>
      let txid := cluster.primaryTxid
      follower.backup.appliedTxid == txid && primary.checkpointTxid == txid &&
        follower.backup.lastCheckpoint.map Checkpoint.Info.txid == some txid

/-- Whether a Backup and the Primary hold namespaces of one digest. -/
def sameDigest (cluster : Cluster) (follower : Follower) : Bool :=
  match cluster.primary, follower.backup.catalog with
  | some primary, some catalog =>
      primary.catalog.tree.digest == catalog.tree.digest
  | _, _ => false

/-- How a Backup ran by itself. -/
structure Run where
  /-- Whether it caught up with the Primary and took a checkpoint there. -/
  reached : Bool
  /-- How the recovery at its beginning went. -/
  recovered : Except ServiceError Unit
  /-- How its shutdown went. -/
  stopped : Except ServiceError Unit
  /-- Whether it ended with the Primary's namespace. -/
  sameDigest : Bool

/-- Let a Backup recover, catch up, take a checkpoint and stop. A Backup that
does not recover stops at once. -/
def converge (cluster : Cluster) (follower : Follower) (now : Nat) :
    Cluster × Follower × Run :=
  let (cluster, follower, recovered) := cluster.recover follower
  let (cluster, follower) :=
    match recovered with
    | .error _ => (cluster, follower)
    | .ok () =>
        let (cluster, follower) :=
          cluster.fetchAll follower (cluster.primaryTxid + 1)
        let (cluster, follower, _) := cluster.checkpointOnce follower now
        (cluster, follower)
  let reached := cluster.hasConverged follower
  let (cluster, follower, stopped) := cluster.shutdown follower
  (cluster, follower,
    ⟨reached, recovered, stopped, cluster.sameDigest follower⟩)

/-! ## Agents -/

/-- Answer a call of the agent of a storage node at a time. -/
def answerAgent
    (start now : Nat)
    (id : NodeId)
    (cluster : Cluster)
    (call : AgentCall) :
    Cluster × AgentReply :=
  let (cluster, answer) := cluster.ask start
    (match call with
      | .register => Remote.register id now
      | .heartbeat => Remote.heartbeat id now)
  (cluster,
    match answer with
    | .ok _ => .accepted
    | .error (.notRegistered _) => .notRegistered
    | .error _ => .failed)

/-- One tick of the agent of a storage node at a time. -/
def tickAgent
    (start now : Nat)
    (id : NodeId)
    (agent : Agent)
    (cluster : Cluster) :
    Agent × Cluster :=
  agent.tick (answerAgent start now id) cluster

/-- Whether a storage node is a member of the Primary's fleet. -/
def hasMember (cluster : Cluster) (id : NodeId) : Bool :=
  match cluster.primary with
  | none => false
  | some primary => primary.fleet.contains id

/-- Evict the storage nodes that are silent at a time. -/
def evictStale (cluster : Cluster) (now : Nat) : Cluster × List NodeId :=
  match cluster.primary with
  | none => (cluster, [])
  | some primary =>
      let (primary, evicted) := primary.evictStale now
      ({ cluster with primary := some primary }, evicted)

/-- How an agent fared when its node was evicted. -/
structure AgentRun where
  /-- Whether the node was a member after the first tick. -/
  registered : Bool
  /-- The nodes that were evicted. -/
  evicted : List NodeId
  /-- Whether the node was a member again after the second tick. -/
  readmitted : Bool
  deriving Repr

/-- Let the agent of a storage node tick, evict every member far in the future,
and let the agent tick again. -/
def runAgent (cluster : Cluster) (now : Nat) (id : NodeId) :
    Cluster × AgentRun :=
  let (agent, cluster) := tickAgent cluster.starts now id Agent.start cluster
  let registered := cluster.hasMember id
  let (cluster, evicted) := cluster.evictStale (Word.max / 2)
  let (_, cluster) := tickAgent cluster.starts now id agent cluster
  (cluster, ⟨registered, evicted, cluster.hasMember id⟩)

end Cluster
end NameService
