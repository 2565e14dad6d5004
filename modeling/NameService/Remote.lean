import NameService.Http.Router
import NameService.Upload

/-!
# Calls over the network

How a caller sees the Primary from afar. A call that does not arrive fails in
transit, and a refusal arrives as a status with its wording, from which the
caller makes an error of its own.
-/

namespace NameService

namespace ServiceError

/-- A refusal of the Primary as its caller sees it. -/
def seenRemotely (cause : ServiceError) : ServiceError :=
  match Http.status cause with
  | 404 => .notRegistered cause.message
  | 400 => .input (.other cause.message)
  | status =>
      .network (.requestFailed status (Http.reason status) cause.message)

/-- An unknown storage node is the one refusal that its caller sees as such. -/
@[simp] theorem seenRemotely_notRegistered (node : String) :
    (notRegistered node).seenRemotely =
      .notRegistered (notRegistered node).message := rfl

end ServiceError

namespace Remote

/-- The base of the addresses of a service, without the slashes at its end. -/
def baseUrl (url : String) : String :=
  String.ofList (url.toList.reverse.dropWhile (· == '/')).reverse

/-- Call a Primary, if there is one that the call reaches. -/
def ask (disk : Disk) (primary : Option Primary)
    (call : Disk → Primary → Outcome Primary ServiceError α) :
    Outcome (Option Primary) ServiceError α :=
  match primary with
  | none => ⟨disk, none, .error (.network .transport)⟩
  | some primary =>
      let outcome := call disk primary
      ⟨outcome.disk, some outcome.state,
        outcome.answer.mapError ServiceError.seenRemotely⟩

@[simp] theorem ask_none
    (disk : Disk)
    (call : Disk → Primary → Outcome Primary ServiceError α) :
    ask disk none call = ⟨disk, none, .error (.network .transport)⟩ := rfl

/-- Make a directory. -/
def makeDirectory (path : String) (disk : Disk) (primary : Primary) :
    Outcome Primary ServiceError Bool :=
  let (primary, answer) := primary.makeDirectory path
  ⟨disk, primary, answer⟩

/-- Create a file. -/
def createFile (path : String) (disk : Disk) (primary : Primary) :
    Outcome Primary ServiceError Bool :=
  let (primary, answer) := primary.createFile path
  ⟨disk, primary, answer⟩

/-- Ask what the namespace is. -/
def summary (disk : Disk) (primary : Primary) :
    Outcome Primary ServiceError Primary.Summary :=
  ⟨disk, primary, .ok primary.summary⟩

/-- Register a storage node at a time. -/
def register (id : NodeId) (now : Nat) (disk : Disk) (primary : Primary) :
    Outcome Primary ServiceError Bool :=
  ⟨disk, primary.register id now, .ok true⟩

/-- Send a heartbeat of a storage node at a time. -/
def heartbeat (id : NodeId) (now : Nat) (disk : Disk) (primary : Primary) :
    Outcome Primary ServiceError Bool :=
  let (primary, answer) := primary.heartbeat id now
  ⟨disk, primary, answer.map fun _ => true⟩

/-- Place a file. -/
def allocate
    (fileName : String)
    (size : Nat)
    (disk : Disk)
    (primary : Primary) :
    Outcome Primary ServiceError (List Member) :=
  if fileName = "" then ⟨disk, primary, .error (.input .emptyFileName)⟩
  else
    let (primary, targets) := primary.allocate size
    ⟨disk, primary, .ok targets⟩

/-- Fetch the records behind a transaction id. -/
def fetchEdits (after : Nat) (disk : Disk) (primary : Primary) :
    Outcome Primary ServiceError (List Record) :=
  let (primary, answer) := primary.fetchEdits disk after
  ⟨disk, primary, answer⟩

/-- Report a checkpoint. -/
def updateCheckpoint (txid : Nat) (disk : Disk) (primary : Primary) :
    Outcome Primary ServiceError Nat :=
  primary.updateCheckpoint disk txid

/-- Shut the Primary down. The answer is its last transaction id and its
checkpoint id. -/
def shutdown (disk : Disk) (primary : Primary) :
    Outcome Primary ServiceError (Nat × Nat) :=
  let closed := primary.close disk
  ⟨closed.disk, closed.state,
    closed.answer.map fun _ =>
      (closed.state.catalog.appliedTxid, closed.state.checkpointTxid)⟩

/-- Send a stream to the image channel of a Primary. The answer is what it sends
back. -/
def sendImage (stream : Bytes) (disk : Disk) (primary : Primary) :
    Outcome Primary ServiceError Bytes :=
  let (disk, received) :=
    Upload.receive disk primary.settings.imageLocation
      primary.settings.checkpointStore stream
  ⟨disk, primary, .ok (Upload.reply received)⟩

/-- Upload an image to a Primary and wait for its acknowledgement. -/
def uploadImage (content : Bytes) (disk : Disk) (primary : Option Primary) :
    Outcome (Option Primary) ServiceError Unit :=
  (ask disk primary (sendImage (Upload.frame content))).mapAnswer fun answer =>
    answer.bind Upload.acknowledged

end Remote
end NameService
