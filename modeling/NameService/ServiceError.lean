import NameService.Log.Error

/-!
# Errors of the service

Everything that a node of the service can refuse or fail at, each with its
cause. The wording of all of them is here.
-/

namespace NameService

/-- Why an input is not acceptable. -/
inductive InputError
  /-- The file of the checkpoint id does not hold a word; its path. -/
  | badCheckpointTxid (path : String) (cause : Text.NumeralError)
  /-- A checkpoint line has fewer than three fields. -/
  | malformedInfo (line : String)
  /-- A checkpoint line names no image file. -/
  | infoWithoutImage (line : String)
  /-- A number of a checkpoint line is not a word. -/
  | infoNumber (line : String) (cause : Text.NumeralError)
  /-- A reported checkpoint is ahead of the log. -/
  | checkpointAhead (txid applied : Nat)
  /-- An allocation names no file. -/
  | emptyFileName
  /-- An image on the wire is too long. -/
  | imageTooLong (length : Nat)
  /-- An image on the wire is older than the checkpoint. -/
  | imageTooOld (txid floor : Nat)
  /-- A fault described elsewhere. -/
  | other (text : String)
  deriving DecidableEq, Repr

namespace InputError

/-- The wording of an input error. -/
def message : InputError → String
  | .badCheckpointTxid path cause =>
      "Bad checkpoint txid in " ++ Text.quoted path ++ ": " ++ cause.message
  | .malformedInfo line => "Malformed checkpoint info: " ++ Text.quoted line
  | .infoWithoutImage line =>
      "Checkpoint info without image file: " ++ Text.quoted line
  | .infoNumber line cause =>
      "Malformed checkpoint info " ++ Text.quoted line ++ ": " ++ cause.message
  | .checkpointAhead txid applied =>
      "Checkpoint txid " ++ String.ofList (Text.decimal txid) ++
        " is ahead of the last txid " ++
        String.ofList (Text.decimal applied)
  | .emptyFileName => "file_name must not be empty"
  | .imageTooLong length =>
      "Image of " ++ String.ofList (Text.decimal length) ++
        " bytes exceeds limit"
  | .imageTooOld txid floor =>
      "Image at txid " ++ String.ofList (Text.decimal txid) ++
        " is older than checkpoint txid " ++
        String.ofList (Text.decimal floor)
  | .other text => text

end InputError

/-- Why a call over the network fails. -/
inductive NetworkError
  /-- The peer was not reached, or the connection broke. -/
  | transport
  /-- The peer answered with a failure. -/
  | requestFailed (status : Nat) (reason message : String)
  /-- The peer did not acknowledge an image; what it sent. -/
  | notAcknowledged (reply : String)
  /-- A fault described elsewhere. -/
  | other (text : String)
  deriving DecidableEq, Repr

namespace NetworkError

/-- The wording of a network error. -/
def message : NetworkError → String
  | .transport => "<transport>"
  | .requestFailed status reason message =>
      "Request failed (" ++ String.ofList (Text.decimal status) ++ " " ++
        reason ++ "): " ++ message
  | .notAcknowledged reply =>
      "Image upload not acknowledged (reply " ++ Text.quoted reply ++ ")"
  | .other text => text

end NetworkError

/-- Why a node of the service refuses or fails. -/
inductive ServiceError
  | tree (cause : TreeError)
  | log (cause : LogError)
  | file (cause : FileError)
  /-- A storage node is not a member; its name. -/
  | notRegistered (node : String)
  | input (cause : InputError)
  | network (cause : NetworkError)
  | internal (text : String)
  deriving DecidableEq, Repr

namespace ServiceError

/-- The wording of a service error. -/
def message : ServiceError → String
  | .tree cause => "Namespace error: " ++ cause.message
  | .log cause => "WAL error: " ++ cause.message
  | .file cause => "IO error: " ++ cause.message
  | .notRegistered node => "Node not registered: " ++ node
  | .input cause => "Invalid input: " ++ cause.message
  | .network cause => "Network error: " ++ cause.message
  | .internal text => "Internal server error: " ++ text

/-- Whether trying again may help. -/
def isTransient : ServiceError → Bool
  | .file _ => true
  | .network _ => true
  | .log (.file _) => true
  | _ => false

end ServiceError
end NameService
