import NameService.Address
import NameService.Checkpoint
import NameService.FilePath
import NameService.Json.Read
import NameService.Json.Write

/-!
# Settings

The settings of a node, their defaults, and the files that follow from the data
directory. Settings are read from a JSON object, or from an array of their
values in order that may be cut short; what is missing keeps its default. They
are written as an object of all of them.
-/

namespace NameService

/-- The settings of a node. Intervals are in milliseconds. -/
structure Settings where
  dataDirectory : String
  /-- Where the Primary answers requests. -/
  requestAddress : SocketAddress
  /-- Where the Primary receives images. -/
  imageAddress : SocketAddress
  /-- How many bytes a buffer holds when it is due for rotation. -/
  segmentSize : Nat
  /-- How many records an answer to a fetch has at most. -/
  batchSize : Nat
  /-- Whether segments covered by a checkpoint are deleted. -/
  purgesSegments : Bool
  flushInterval : Nat
  fetchBackoff : Nat
  checkpointInterval : Nat
  recoveryPollInterval : Nat
  heartbeatTimeout : Nat
  livenessInterval : Nat
  heartbeatInterval : Nat
  /-- How many storage nodes a placement takes. -/
  replicaCount : Nat
  deriving DecidableEq, Repr

namespace Settings

/-- The settings of a node that is told nothing. -/
def default : Settings where
  dataDirectory := "./dfs-data"
  requestAddress := ⟨.v4 [127, 0, 0, 1], 50070, 0⟩
  imageAddress := ⟨.v4 [127, 0, 0, 1], 50080, 0⟩
  segmentSize := 25600
  batchSize := 10
  purgesSegments := true
  flushInterval := 1000
  fetchBackoff := 1000
  checkpointInterval := 60000
  recoveryPollInterval := 1000
  heartbeatTimeout := 90000
  livenessInterval := 30000
  heartbeatInterval := 30000
  replicaCount := 2

/-- The default settings for a data directory. -/
def ofDirectory (directory : String) : Settings :=
  { default with dataDirectory := directory }

/-! ## Files -/

/-- The directory of the edit log. -/
def editsName : String := "edits"

/-- The file of the Primary's image. -/
def imageName : String := "fsimage.json"

/-- The file of the Primary's checkpoint id. -/
def checkpointTxidName : String := "checkpoint-txid.meta"

/-- The file of the Backup's last checkpoint. -/
def checkpointInfoName : String := "checkpoint-info.meta"

/-- The file of the Backup's image of a transaction id. -/
def backupImageName (txid : Nat) : String :=
  String.ofList ("fsimage-".toList ++ Text.decimal txid ++ ".json".toList)

/-- The path of a file in the data directory. -/
def path (settings : Settings) (name : String) : String :=
  FilePath.join settings.dataDirectory name

/-- The location of the data directory. -/
def home (settings : Settings) : Location :=
  FilePath.location settings.dataDirectory

/-- The location of the edit log. -/
def editsLocation (settings : Settings) : Location :=
  settings.home ++ [editsName]

/-- The location of the Primary's image. -/
def imageLocation (settings : Settings) : Location :=
  settings.home ++ [imageName]

/-- The Primary's checkpoint id. -/
def checkpointStore (settings : Settings) : Checkpoint.Store :=
  ⟨settings.home ++ [checkpointTxidName], settings.path checkpointTxidName⟩

/-- The location of the Backup's last checkpoint. -/
def checkpointInfoLocation (settings : Settings) : Location :=
  settings.home ++ [checkpointInfoName]

/-- The location of the Backup's image of a transaction id. -/
def backupImageLocation (settings : Settings) (txid : Nat) : Location :=
  settings.home ++ [backupImageName txid]

/-- The location that a name leads to from the data directory. -/
def resolve (settings : Settings) (disk : Disk) (name : String) : Location :=
  FilePath.resolve disk (settings.path name)

/-! ## Reading -/

/-- Settings that are being read. -/
structure Draft where
  /-- The settings read so far, over the defaults. -/
  settings : Settings
  /-- The names of the settings read so far. -/
  seen : List String

/-- A setting of a name, with its reader and its place. -/
def field
    (name : String)
    (reader : Json.Reader α)
    (set : Settings → α → Settings) :
    Json.Field Draft :=
  ⟨name, fun draft => draft.seen.contains name, fun draft text =>
    (reader text).map fun (value, rest) =>
      (⟨set draft.settings value, name :: draft.seen⟩, rest)⟩

/-- Read an address. -/
def readAddress : Json.Reader SocketAddress := fun text => do
  let (content, rest) ← Json.readText text
  match Address.ofText? content with
  | some address => pure (address, rest)
  | none => .error .mismatch

/-- The settings in order. -/
def fields : List (Json.Field Draft) :=
  [field "data_dir" Json.readText fun settings value =>
      { settings with dataDirectory := value },
    field "rpc_addr" readAddress fun settings value =>
      { settings with requestAddress := value },
    field "image_addr" readAddress fun settings value =>
      { settings with imageAddress := value },
    field "segment_size_bytes" Json.readWord fun settings value =>
      { settings with segmentSize := value },
    field "fetch_batch_size" Json.readWord fun settings value =>
      { settings with batchSize := value },
    field "purge_checkpointed_segments" Json.readFlag fun settings value =>
      { settings with purgesSegments := value },
    field "flush_check_interval" Json.readWord fun settings value =>
      { settings with flushInterval := value },
    field "fetch_backoff" Json.readWord fun settings value =>
      { settings with fetchBackoff := value },
    field "checkpoint_interval" Json.readWord fun settings value =>
      { settings with checkpointInterval := value },
    field "recovery_poll_interval" Json.readWord fun settings value =>
      { settings with recoveryPollInterval := value },
    field "heartbeat_timeout" Json.readWord fun settings value =>
      { settings with heartbeatTimeout := value },
    field "liveness_check_interval" Json.readWord fun settings value =>
      { settings with livenessInterval := value },
    field "heartbeat_interval" Json.readWord fun settings value =>
      { settings with heartbeatInterval := value },
    field "replica_count" Json.readWord fun settings value =>
      { settings with replicaCount := value }]

/-- Read settings. -/
def read : Json.Reader Settings :=
  Json.readStructure fields ⟨default, []⟩ fun draft => some draft.settings

/-- The settings that a text holds. -/
def ofText (text : String) : Except Json.Fault Settings :=
  Json.readDocument read (text.toList.map some)

/-! ## Writing -/

/-- The characters of settings as a JSON object. -/
def encode (settings : Settings) : List Char :=
  Json.object
    [Json.member "data_dir" (Json.string settings.dataDirectory),
      Json.member "rpc_addr" (Json.string settings.requestAddress.text),
      Json.member "image_addr" (Json.string settings.imageAddress.text),
      Json.member "segment_size_bytes" (Json.number settings.segmentSize),
      Json.member "fetch_batch_size" (Json.number settings.batchSize),
      Json.member "purge_checkpointed_segments"
        (Json.boolean settings.purgesSegments),
      Json.member "flush_check_interval" (Json.number settings.flushInterval),
      Json.member "fetch_backoff" (Json.number settings.fetchBackoff),
      Json.member "checkpoint_interval"
        (Json.number settings.checkpointInterval),
      Json.member "recovery_poll_interval"
        (Json.number settings.recoveryPollInterval),
      Json.member "heartbeat_timeout" (Json.number settings.heartbeatTimeout),
      Json.member "liveness_check_interval"
        (Json.number settings.livenessInterval),
      Json.member "heartbeat_interval" (Json.number settings.heartbeatInterval),
      Json.member "replica_count" (Json.number settings.replicaCount)]

/-- Settings as a JSON object. -/
def line (settings : Settings) : String := String.ofList settings.encode

end Settings
end NameService
