import NameService.Http.MediaType
import NameService.Http.Query
import NameService.Http.Target
import NameService.Json.Write
import NameService.Primary

/-!
# The request interface of the Primary

Each route takes one method. Bodies are JSON structures and answers are JSON
objects; a refusal is an object of its wording under the status of its kind.
-/

namespace NameService
namespace Http

/-- A request. -/
structure Request where
  method : String
  target : Target
  /-- The announced type of the body, if any. -/
  contentType : Option String
  body : Bytes

namespace Request

/-- Whether a character may stand in the value of a header. -/
def isHeaderChar (c : Char) : Bool :=
  c == '\t' || (32 ≤ c.toNat && c.toNat != 127)

/-- The request of the given parts, if they can be sent: the method is a token,
the URI is a target and the content type holds no controls. -/
def ofParts?
    (method uri : String)
    (contentType : Option String)
    (body : Bytes) :
    Option Request := do
  let target ← Target.ofText? uri
  if method != "" && method.toList.all isTokenChar &&
      contentType.all fun type => type.toList.all isHeaderChar then
    pure ⟨method, target, contentType, body⟩
  else none

end Request

/-- An answer. -/
structure Response where
  status : Nat
  body : List Char
  deriving Repr

/-- What a path stands for. -/
inductive Route
  | makeDirectory
  | createFile
  | digest
  | register
  | heartbeat
  | allocate
  | edits
  | checkpoint
  | shutdown
  | metrics
  deriving DecidableEq, Repr

namespace Route

/-- The routes by their paths. -/
def table : List (String × Route) :=
  [("/v1/namespace/mkdir", makeDirectory), ("/v1/namespace/create", createFile),
    ("/v1/namespace/digest", digest), ("/v1/datanode/register", register),
    ("/v1/datanode/heartbeat", heartbeat), ("/v1/datanode/allocate", allocate),
    ("/v1/replication/edits", edits),
    ("/v1/replication/checkpoint", checkpoint),
    ("/v1/admin/shutdown", shutdown), ("/metrics", metrics)]

/-- Whether a route answers without changing anything. -/
def isQuery : Route → Bool
  | digest => true
  | edits => true
  | metrics => true
  | _ => false

end Route

/-! ## Bodies of requests -/

/-- A structure of texts that is being read, by name. -/
abbrev TextDraft := List (String × String)

/-- A text member of a structure. -/
def textField (name : String) : Json.Field TextDraft :=
  ⟨name, fun draft => (draft.lookup name).isSome, fun draft text =>
    (Json.readText text).map fun (value, rest) =>
      ((name, value) :: draft, rest)⟩

/-- Read a structure of a path alone. -/
def readPath : Json.Reader String :=
  Json.readStructure [textField "path"] [] fun draft => draft.lookup "path"

/-- Read the identity of a storage node. -/
def readNodeId : Json.Reader NodeId :=
  Json.readStructure [textField "ip", textField "hostname"] [] fun draft => do
    pure ⟨← draft.lookup "ip", ← draft.lookup "hostname"⟩

/-- An allocation that is being read. -/
structure AllocationDraft where
  fileName : Option String
  size : Option Nat

/-- Read the file name and the size of an allocation. -/
def readAllocation : Json.Reader (String × Nat) :=
  Json.readStructure
    [⟨"file_name", fun (draft : AllocationDraft) => draft.fileName.isSome,
      fun draft text =>
        (Json.readText text).map fun (name, rest) =>
          ({ draft with fileName := some name }, rest)⟩,
      ⟨"size_bytes", fun draft => draft.size.isSome, fun draft text =>
        (Json.readWord text).map fun (size, rest) =>
          ({ draft with size := some size }, rest)⟩]
    ⟨none, none⟩ fun draft => do pure (← draft.fileName, ← draft.size)

/-- Read a structure of a transaction id alone. -/
def readTxid : Json.Reader Nat :=
  Json.readStructure
    [⟨"txid", fun (draft : Option Nat) => draft.isSome, fun _ text =>
        (Json.readWord text).map fun (txid, rest) => (some txid, rest)⟩]
    none id

/-! ## Answers -/

/-- The status of a refusal. -/
def status : ServiceError → Nat
  | .tree (.notADirectory _) => 409
  | .tree (.codec _) => 400
  | .notRegistered _ => 404
  | .input _ => 400
  | .network _ => 502
  | .log _ => 500
  | .file _ => 500
  | .internal _ => 500

/-- The usual words for a status. -/
def reason : Nat → String
  | 400 => "Bad Request"
  | 404 => "Not Found"
  | 409 => "Conflict"
  | 502 => "Bad Gateway"
  | _ => "Internal Server Error"

/-- A refusal. -/
def refusal (cause : ServiceError) : Response :=
  ⟨status cause, Json.object [Json.member "error" (Json.string cause.message)]⟩

/-- A successful answer of members. -/
def success (members : List (List Char)) : Response :=
  ⟨200, Json.object members⟩

/-- A successful answer of a truth value. -/
def flag (value : Bool) : Response :=
  success [Json.member "success" (Json.boolean value)]

/-- An answer or a refusal. -/
def answer (respond : α → Response) : Except ServiceError α → Response
  | .ok value => respond value
  | .error cause => refusal cause

/-- A plain text under a status. -/
def plain (status : Nat) (text : String) : Response := ⟨status, text.toList⟩

/-- A member of the fleet as JSON. -/
def memberJson (member : Member) : List Char :=
  Json.object
    [Json.member "ip" (Json.string member.id.ip),
      Json.member "hostname" (Json.string member.id.hostname),
      Json.member "last_heartbeat" (Json.number member.lastHeartbeat),
      Json.member "stored_bytes" (Json.number member.storedBytes)]

/-- A summary of the namespace as an answer. -/
def summaryResponse (summary : Primary.Summary) : Response :=
  success
    [Json.member "txid" (Json.number summary.txid),
      Json.member "digest" (Json.string summary.digest),
      Json.member "directories" (Json.number summary.directories),
      Json.member "files" (Json.number summary.files)]

/-! ## Handling -/

/-- How many bytes a body has at most. -/
def maxBodyLength : Nat := 2097152

/-- Handle the body of a request, which has to be announced as JSON, to be of a
length that is taken in, and to have the right shape. -/
def withBody
    (request : Request)
    (reader : Json.Reader α)
    (disk : Disk)
    (primary : Primary)
    (handle : α → Disk × Primary × Response) : Disk × Primary × Response :=
  if (request.contentType.map announcesJson).getD false then
    if maxBodyLength < request.body.length then
      (disk, primary, plain 413 "Failed to buffer the request body")
    else match Json.readDocument reader (Text.decode request.body) with
    | .ok value => handle value
    | .error .malformed =>
        (disk, primary, plain 400 "Failed to parse the request body as JSON")
    | .error .mismatch =>
        (disk, primary,
          plain 422 "Failed to deserialize the JSON body into the target type")
  else
    (disk, primary,
      plain 415 "Expected request with `Content-Type: application/json`")

/-- Handle a request at its route. -/
def handleRoute
    (now : Nat)
    (request : Request)
    (disk : Disk)
    (primary : Primary) :
    Route → Disk × Primary × Response
  | .makeDirectory => withBody request readPath disk primary fun path =>
      let (primary, result) := primary.makeDirectory path
      (disk, primary, answer flag result)
  | .createFile => withBody request readPath disk primary fun path =>
      let (primary, result) := primary.createFile path
      (disk, primary, answer flag result)
  | .digest => (disk, primary, summaryResponse primary.summary)
  | .register => withBody request readNodeId disk primary fun id =>
      (disk, primary.register id now, flag true)
  | .heartbeat => withBody request readNodeId disk primary fun id =>
      let (primary, result) := primary.heartbeat id now
      (disk, primary, answer (fun _ => flag true) result)
  | .allocate =>
      withBody request readAllocation disk primary fun (fileName, size) =>
      if fileName = "" then (disk, primary, refusal (.input .emptyFileName))
      else
        let (primary, targets) := primary.allocate size
        (disk, primary,
          success [Json.member "targets" (Json.array (targets.map memberJson))])
  | .edits =>
      match queryWord? "after_txid" request.target.query with
      | none => (disk, primary, plain 400 "Failed to deserialize query string")
      | some after =>
          let (primary, result) := primary.fetchEdits disk after
          (disk, primary, answer (fun records =>
            success [Json.member "records"
              (Json.array (records.map Record.encode))]) result)
  | .checkpoint => withBody request readTxid disk primary fun txid =>
      let updated := primary.updateCheckpoint disk txid
      (updated.disk, updated.state, answer (fun txid =>
        success [Json.member "checkpoint_txid" (Json.number txid)])
        updated.answer)
  | .shutdown =>
      let closed := primary.close disk
      (closed.disk, closed.state, answer (fun _ =>
        success
          [Json.member "last_txid"
            (Json.number closed.state.catalog.appliedTxid),
            Json.member "checkpoint_txid"
              (Json.number closed.state.checkpointTxid)])
        closed.answer)
  | .metrics => (disk, primary, plain 200 "# metrics not initialized")

/-- Handle a request. A query may also be asked for without its body. -/
def handle (now : Nat) (request : Request) (disk : Disk) (primary : Primary) :
    Disk × Primary × Response :=
  match Route.table.lookup (String.ofList request.target.path) with
  | none => (disk, primary, plain 404 "")
  | some route =>
      if request.method = (if route.isQuery then "GET" else "POST") then
        handleRoute now request disk primary route
      else if route.isQuery && request.method == "HEAD" then
        let (disk, primary, response) :=
          handleRoute now request disk primary route
        (disk, primary, ⟨response.status, []⟩)
      else (disk, primary, plain 405 "")

end Http
end NameService
