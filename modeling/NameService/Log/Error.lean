import NameService.Disk
import NameService.Tree.Error

/-!
# Errors of the edit log
-/

namespace NameService

/-- Why the edit log refuses an operation. -/
inductive LogError
  /-- A file cannot be used. -/
  | file (error : FileError)
  /-- A line of a segment is not a record. -/
  | serialization (cause : TreeError)
  /-- A record does not carry the next transaction id. -/
  | outOfOrder (expected found : Nat)
  /-- Sealed records wait to be flushed. -/
  | flushPending
  deriving DecidableEq, Repr

namespace LogError

/-- The wording of a log error. -/
def message : LogError → String
  | .file error => "IO error: " ++ error.message
  | .serialization cause => "Serialization error: " ++ cause.message
  | .outOfOrder expected found =>
      "Out of order append: expected txid " ++
        String.ofList (Text.decimal expected) ++
        ", found " ++ String.ofList (Text.decimal found)
  | .flushPending => "Previous segment has not been flushed yet"

end LogError
end NameService
