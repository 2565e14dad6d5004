import NameService.Sorting
import NameService.Text.Split

/-!
# The disk

Files and directories below a working directory, and the steps that change them.
Each step may be made to fail: a disk carries a schedule that says which of its
steps fail, counted from its beginning. A crash at a step is the schedule under
which that step and all later ones fail.
-/

namespace NameService

/-- The content of a file. -/
abbrev Bytes := List UInt8

/-- The names on the way from the working directory to a file. -/
abbrev Location := List String

namespace Location

/-- A location as a relative path. -/
def text (location : Location) : String := "/".intercalate location

/-- The root of the system. -/
def systemRoot : Location := ["/"]

/-- The directory above a location. Above the working directory every step is
kept as a step up, and the root of the system is above itself. -/
def parent (location : Location) : Location :=
  if location = systemRoot then systemRoot
  else if location.all (· == "..") then ".." :: location
  else location.dropLast

/-- Whether a location is a directory that is always there: the working
directory, one above it, or the root of the system. -/
def isLandmark (location : Location) : Bool :=
  location.all (· == "..") || location == systemRoot

/-- How many bytes a name has at most. -/
def maxNameLength : Nat := 255

end Location

/-- Why a file cannot be used. -/
inductive FileError
  | notFound
  | isADirectory
  | notADirectory
  | alreadyExists
  | invalidData
  | directoryNotEmpty
  /-- A name or a path is too long for a file. -/
  | nameTooLong
  /-- A name holds a character that no name can hold. -/
  | invalidName
  /-- A place is in use. -/
  | resourceBusy
  /-- A fault described elsewhere. -/
  | other (text : String)
  deriving DecidableEq, Repr

namespace FileError

/-- The wording of a file error. -/
def message : FileError → String
  | .notFound => "NotFound"
  | .isADirectory => "IsADirectory"
  | .notADirectory => "NotADirectory"
  | .alreadyExists => "AlreadyExists"
  | .invalidData => "InvalidData"
  | .directoryNotEmpty => "DirectoryNotEmpty"
  | .nameTooLong => "InvalidFilename"
  | .invalidName => "InvalidInput"
  | .resourceBusy => "ResourceBusy"
  | .other text => text

end FileError

namespace Disk

/-- What stands at a location. -/
inductive Item
  | file (content : Bytes)
  | directory
  deriving DecidableEq, Repr

/-- How a step is made to fail. -/
structure Failure where
  /-- The error that is reported. -/
  error : FileError
  /-- How many bytes get through if the step is a write. -/
  written : Nat

/-- A step that changes the disk. -/
inductive Step
  /-- Make one directory. -/
  | makeDirectory (location : Location)
  /-- Make a file, or empty the one that is there. -/
  | create (location : Location)
  /-- Write over a file from its beginning. -/
  | write (location : Location) (content : Bytes)
  /-- Wait until a file is durable. -/
  | sync (location : Location)
  /-- Move a file over another location. -/
  | rename (source target : Location)
  /-- Delete a file. -/
  | remove (location : Location)
  deriving DecidableEq, Repr

end Disk

/-- Files and directories, with a schedule of failures. -/
structure Disk where
  /-- What stands where. -/
  items : List (Location × Disk.Item)
  /-- How many steps were tried. -/
  clock : Nat
  /-- The steps that fail, by their number. -/
  failures : Nat → Option Disk.Failure

namespace Disk

/-- The disk on which nothing stands and nothing fails. -/
def empty : Disk := ⟨[], 0, fun _ => none⟩

/-- What stands at a location. Of what lies outside the working directory only
the landmarks are known. -/
def item? (disk : Disk) (location : Location) : Option Item :=
  if location.isLandmark then some .directory else disk.items.lookup location

/-- Whether anything stands at a location. -/
def has (disk : Disk) (location : Location) : Bool :=
  (disk.item? location).isSome

/-- Whether a file stands at a location. -/
def hasFile (disk : Disk) (location : Location) : Bool :=
  match disk.item? location with
  | some (.file _) => true
  | _ => false

/-- Whether a directory stands at a location. -/
def hasDirectory (disk : Disk) (location : Location) : Bool :=
  disk.item? location == some .directory

/-- The same disk with an item at a location. -/
def put (disk : Disk) (location : Location) (item : Item) : Disk :=
  { disk with
    items :=
      (location, item) :: disk.items.filter fun entry => entry.1 != location }

/-- The same disk with nothing at a location. -/
def erase (disk : Disk) (location : Location) : Disk :=
  { disk with items := disk.items.filter fun entry => entry.1 != location }

/-- The locations above a location, from the top. -/
def above : Location → List Location
  | [] => []
  | name :: rest => [] :: (above rest).map (name :: ·)

/-- The first name of a location that does not stand for a directory. -/
def firstMissing? (disk : Disk) (location : Location) : Option String :=
  location[((above location).filter disk.hasDirectory).length - 1]?

/-- Why nothing stands at a location: no file can have its name, a file is in
the way, or it is missing. -/
def absence (disk : Disk) (location : Location) : FileError :=
  if location.any fun name => name.toList.contains '\x00' then .invalidName
  else if (above location).any disk.hasFile then .notADirectory
  else
    if (disk.firstMissing? location).any
      (Location.maxNameLength < ·.utf8ByteSize) then
    .nameTooLong
  else .notFound

/-- Whether an item can be added at a location. -/
def parentReady (disk : Disk) (location : Location) : Except FileError Unit :=
  match disk.absence location with
  | .notFound => if disk.hasDirectory location.dropLast then .ok () else
    .error .notFound
  | error => .error error

/-- What a step does when it is not made to fail. -/
def effect (disk : Disk) : Step → Except FileError Disk
  | .makeDirectory location =>
      if disk.has location then .error .alreadyExists
      else (disk.parentReady location).map fun _ => disk.put location .directory
  | .create location =>
      match disk.item? location with
      | some .directory => .error .isADirectory
      | some (.file _) => .ok (disk.put location (.file []))
      | none => (disk.parentReady location).map fun _ =>
          disk.put location (.file [])
  | .write location content =>
      match disk.item? location with
      | some .directory => .error .isADirectory
      | some (.file old) =>
          .ok (disk.put location (.file (content ++ old.drop content.length)))
      | none => .error (disk.absence location)
  | .sync location => if disk.has location then .ok disk else
    .error (disk.absence location)
  | .rename source target =>
      match disk.item? source with
      | some (.file content) =>
          match disk.item? target with
          | some .directory => .error .isADirectory
          | some (.file _) =>
              .ok ((disk.erase source).put target (.file content))
          | none =>
              (disk.parentReady target).map fun _ =>
                (disk.erase source).put target (.file content)
      | some .directory => .error .isADirectory
      | none => .error (disk.absence source)
  | .remove location =>
      match disk.item? location with
      | some (.file _) => .ok (disk.erase location)
      | some .directory => .error .isADirectory
      | none => .error (disk.absence location)

/-- What a write that is cut short leaves behind. -/
def cutShort (disk : Disk) (written : Nat) : Step → Disk
  | .write location content =>
      match disk.effect (.write location (content.take written)) with
      | .ok disk => disk
      | .error _ => disk
  | _ => disk

/-- Try a step. -/
def perform (disk : Disk) (step : Step) : Disk × Except FileError Unit :=
  let next := { disk with clock := disk.clock + 1 }
  match disk.failures disk.clock with
  | some failure => (next.cutShort failure.written step, .error failure.error)
  | none =>
      match next.effect step with
      | .ok disk => (disk, .ok ())
      | .error error => (next, .error error)

/-- Try steps in order, up to the first that fails. -/
def performAll (disk : Disk) : List Step → Disk × Except FileError Unit
  | [] => (disk, .ok ())
  | step :: rest =>
      match disk.perform step with
      | (disk, .ok ()) => disk.performAll rest
      | (disk, .error error) => (disk, .error error)

@[simp] theorem performAll_nil (disk : Disk) :
    disk.performAll [] = (disk, .ok ()) := rfl

/-- The steps that replace a file as a whole: the new content is written beside
it and moved over it. -/
def replaceSteps (scratch target : Location) (content : Bytes) : List Step :=
  [.create scratch, .write scratch content, .sync scratch,
    .rename scratch target]

/-- Make a directory and every missing one above it. -/
def makeDirectories (disk : Disk) (location : Location) :
    Disk × Except FileError Unit :=
  if disk.hasFile location then (disk, .error .alreadyExists)
  else if (above location).any disk.hasFile then (disk, .error .notADirectory)
  else
    disk.performAll
      (((above location ++ [location]).filter fun place => !disk.has place).map
        .makeDirectory)

/-- The content of a file. -/
def read (disk : Disk) (location : Location) : Except FileError Bytes :=
  match disk.item? location with
  | some (.file content) => .ok content
  | some .directory => .error .isADirectory
  | none => .error (disk.absence location)

/-- The names in a directory, in no particular order. -/
def names (disk : Disk) (location : Location) :
    Except FileError (List String) :=
  match disk.item? location with
  | some .directory =>
      .ok (disk.items.filterMap fun entry =>
        if entry.1.dropLast = location then entry.1.getLast? else none)
  | some (.file _) => .error .notADirectory
  | none => .error (disk.absence location)

/-- Everything below a location as relative paths in ascending order; those of
directories end in a slash. -/
def outline (disk : Disk) (location : Location) : List String :=
  Sorting.sort (fun left right => decide (left ≤ right))
    (disk.items.filterMap fun (place, item) =>
      match place.drop location.length with
      | [] => none
      | below =>
          if place.take location.length = location then
            some (match item with
              | .file _ => Location.text below
              | .directory => Location.text below ++ "/")
          else none)

/-- The same disk without a location and everything below it. -/
def eraseAll (disk : Disk) (location : Location) : Disk :=
  { disk with
    items :=
      disk.items.filter fun entry => entry.1.take location.length != location }

/-- The same disk with a file, or a directory, and every directory above it. -/
def plant (disk : Disk) (location : Location) (content : Option Bytes) :
    Disk × Except FileError Unit :=
  match content with
  | none => disk.makeDirectories location
  | some content =>
      match disk.makeDirectories location.dropLast with
      | (disk, .ok ()) =>
          disk.performAll [.create location, .write location content]
      | failed => failed

/-- A name without its extension, which stands behind the last dot. A name whose
only dot is its first character has no extension. -/
def stem (name : List Char) : List Char :=
  match Text.splitAtLast (· == '.') name with
  | none => name
  | some ([], _) => name
  | some (front, _) => front

/-- Replace the extension of a name, or add one. -/
def nameWithExtension (extension_ name : String) : String :=
  String.ofList (stem name.toList ++ '.' :: extension_.toList)

/-- Replace the extension of the last name of a location, or add one. -/
def withExtension (extension_ : String) (location : Location) : Location :=
  match location.getLast? with
  | none => location
  | some name => location.dropLast ++ [nameWithExtension extension_ name]

end Disk
end NameService
