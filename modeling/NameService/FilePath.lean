import NameService.Disk
import NameService.Text.Split

/-!
# File paths

Paths of files as they are written in settings and bookkeeping files, the
locations on the disk that they lead to, and the replacement of the file at a
path.
-/

namespace NameService
namespace FilePath

/-- Whether a path starts at the root of the system. -/
def isAbsolute (path : String) : Bool := path.toList.head? == some '/'

/-- The path of a name in a directory. An absolute name stands for itself. -/
def join (directory name : String) : String :=
  if isAbsolute name then name
  else if directory.toList.isEmpty || directory.toList.getLast? = some '/' then
    directory ++ name
  else directory ++ "/" ++ name

/-- The parts of a path between its slashes. -/
def parts (path : String) : List String :=
  (Text.split (· == '/') path.toList).map String.ofList

/-- The path that has the given parts. -/
def ofParts (parts : List String) : String := "/".intercalate parts

/-- Whether a part of a path names the place that it stands at. -/
def isIdle (part : String) : Bool := part == "" || part == "."

/-- How many bytes a path has at most. -/
def maxLength : Nat := 4095

/-- Where a walk along a path starts. -/
def start (path : String) : Location :=
  if isAbsolute path then Location.systemRoot else []

/-! ## Walks -/

/-- One step of a walk that does not look at the disk. -/
def move (place : Location) (part : String) : Location :=
  if isIdle part then place else if part = ".." then place.parent else
    place ++ [part]

/-- The location of a path, by its names alone. -/
def location (path : String) : Location := (parts path).foldl move (start path)

/-- Walk down from a location. A part that names the place itself or the one
above it leads on only from a directory; elsewhere the walk ends where nothing
stands. -/
def walk (disk : Disk) : Location → List String → Location
  | place, [] => place
  | place, part :: rest =>
      if (isIdle part || part == "..") && !disk.hasDirectory place then
        place ++ part :: rest
      else walk disk (move place part) rest

/-- The location that a path leads to. A path that is too long leads nowhere: it
stands as one name, which is too long for a file. -/
def resolve (disk : Disk) (path : String) : Location :=
  if maxLength < path.utf8ByteSize then [path] else
    walk disk (start path) (parts path)

/-- The location of the entry that a path names, which need not be there. A path
that ends in a place itself or the one above names no entry, and one that ends
in a slash names a directory only. -/
def entry (disk : Disk) (path : String) : Except FileError Location :=
  if maxLength < path.utf8ByteSize then .error (disk.absence [path])
  else
    match (parts path).reverse.dropWhile (· == "") with
    | [] => .error .resourceBusy
    | last :: front =>
        let directory := walk disk (start path) front.reverse
        let place := directory ++ [last]
        match disk.parentReady place with
        | .error error => .error error
        | .ok () =>
            if last = "." ∨ last = ".." then .error .resourceBusy
            else if (parts path).getLast? = some "" then .error .notADirectory
            else .ok place

/-! ## Replacing files -/

/-- Whether a name is two dots and an extension. -/
def isStepWithExtension (name : String) : Bool :=
  match name.toList with
  | '.' :: '.' :: c :: rest => !(c :: rest).contains '.'
  | _ => false

/-- A path with the extension of its last name replaced, or with one added. Idle
parts behind the name are dropped. A path that ends in a step up has no name and
stays the same; a name that is left with a step up when it loses its extension
becomes that step. -/
def withExtension (extension_ path : String) : String :=
  let reversed := (parts path).reverse
  match reversed.dropWhile isIdle with
  | [] => path
  | name :: front =>
      if name = ".." then path
      else if isStepWithExtension name && reversed.head? == some name then
        ofParts (".." :: front).reverse
      else ofParts (Disk.nameWithExtension extension_ name :: front).reverse

/-- Replace the file at a path as a whole, by way of a scratch file. -/
def replace (disk : Disk) (path : String) (content : Bytes) :
    Disk × Except FileError Unit :=
  let scratch := resolve disk (withExtension "tmp" path)
  match disk.performAll
    [.create scratch, .write scratch content, .sync scratch] with
  | (disk, .error error) => (disk, .error error)
  | (disk, .ok ()) =>
      match entry disk path with
      | .error error => (disk, .error error)
      | .ok target => disk.perform (.rename scratch target)

example : join "base" "x" = "base/x" ∧ join "base/" "x" = "base/x" ∧
    join "" "x" = "x" := by
  decide

example : join "base" "/x" = "/x" ∧ location "./a//b" = ["a", "b"] ∧
    location "a/../b" = ["b"] := by
  decide

example : withExtension "tmp" "a/b.c/" = "a/b.tmp" ∧
    withExtension "tmp" "a/..c" = "a/.." := by
  decide

end FilePath
end NameService
