import NameService.Text.Decimal
import NameService.Text.Quoted

/-!
# Errors of the namespace

Why a path cannot be walked, and why a text is not an edit record or an image.
-/

namespace NameService

/-- Why a text is not an edit record or an image. -/
inductive CodecError
  /-- The text is not JSON of the right shape. -/
  | json
  /-- Two entries of a directory have one name. -/
  | duplicateChild (name parent : String)
  /-- The first entry is not the root directory; its name, if there is one. -/
  | badRoot (found : Option String)
  /-- The name of an entry is empty or has a separator. -/
  | invalidName (name : String)
  /-- The entry at a position names no earlier entry as its parent. -/
  | noEarlierParent (position : Nat) (name : String)
  /-- A fault described elsewhere. -/
  | other (text : String)
  deriving DecidableEq, Repr

namespace CodecError

/-- The wording of a codec error. -/
def message : CodecError → String
  | .json => "<json>"
  | .duplicateChild name parent =>
      "duplicate child " ++ Text.quoted name ++ " under " ++ Text.quoted parent
  | .badRoot none => "image root must be the \"/\" directory, found None"
  | .badRoot (some name) =>
      "image root must be the \"/\" directory, found Some(" ++
        Text.quoted name ++ ")"
  | .invalidName name => "invalid entry name " ++ Text.quoted name
  | .noEarlierParent position name =>
      "entry " ++ String.ofList (Text.decimal position) ++ " (" ++
        Text.quoted name ++
        ") has no earlier parent"
  | .other text => text

end CodecError

/-- Why a namespace refuses a mutation, a record or an image. -/
inductive TreeError
  /-- What has to be a directory is a file; the path, or the name, asked for. -/
  | notADirectory (path : String)
  /-- A text is not an edit record or an image. -/
  | codec (cause : CodecError)
  deriving DecidableEq, Repr

namespace TreeError

/-- The wording of a namespace error. -/
def message : TreeError → String
  | .notADirectory path => "not a directory: " ++ path
  | .codec cause => "codec error: " ++ cause.message

end TreeError
end NameService
