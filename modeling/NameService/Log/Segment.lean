import NameService.Edit.Line
import NameService.Log.Error
import NameService.Log.Span
import NameService.Text.Utf8

/-!
# Segments

A segment is a file of record lines. It is read line by line: blank lines are
skipped, and a line that is not a record does not hide the ones behind it.
-/

namespace NameService
namespace Segment

/-- The separator of records. -/
def separator : Char := '\n'

/-- The characters of records, each line with the separator behind it. -/
def chars (records : List Record) : List Char :=
  records.flatMap fun record => record.encode ++ [separator]

@[simp] theorem chars_nil : chars [] = [] := rfl

@[simp] theorem chars_append (left right : List Record) :
    chars (left ++ right) = chars left ++ chars right := by
  simp [chars]

/-- The bytes of records. -/
def bytes (records : List Record) : Bytes := Text.utf8 (chars records)

@[simp] theorem bytes_nil : bytes [] = [] := rfl

@[simp] theorem bytes_append (left right : List Record) :
    bytes (left ++ right) = bytes left ++ bytes right := by
  simp [bytes]

/-- Whether a line holds nothing but blank characters. -/
def blankLine (line : Json.Symbols) : Bool :=
  line.all fun position =>
    match position with
    | some c => Text.isBlank c
    | none => false

/-- The lines of a file that are not blank. -/
def lines (content : Bytes) : List Json.Symbols :=
  (Text.split (· == some separator) (Text.decode content)).filter fun line =>
    !blankLine line

/-- The record on a line. -/
def readLine (line : Json.Symbols) : Except LogError Record :=
  match Text.characters? line with
  | none => .error (.file .invalidData)
  | some text => (Record.decode text).mapError .serialization

/-- The record, or the error, on each line of a file. -/
def readLines (content : Bytes) : List (Except LogError Record) :=
  (lines content).map readLine

/-- All values of a list of answers, or its first error. -/
def collect : List (Except ε α) → Except ε (List α)
  | [] => .ok []
  | .error error :: _ => .error error
  | .ok value :: rest => (collect rest).map (value :: ·)

/-- The records of a file, or the first error on its lines. -/
def records (content : Bytes) : Except LogError (List Record) :=
  collect (readLines content)

/-- The spans of the segments in a directory. A directory that is missing has
none. -/
def list (disk : Disk) (directory : Location) : Except LogError (List Span) :=
  if disk.has directory then
    match disk.names directory with
    | .ok names => .ok (Span.ofFileNames names)
    | .error error => .error (.file error)
  else .ok []

/-- The location of the segment of a span. -/
def location (directory : Location) (span : Span) : Location :=
  directory ++ [span.fileName]

/-- The records of the segment of a span. -/
def read (disk : Disk) (directory : Location) (span : Span) :
    Except LogError (List Record) :=
  match disk.read (location directory span) with
  | .ok content => records content
  | .error error => .error (.file error)

end Segment
end NameService
