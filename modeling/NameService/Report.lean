import NameService.Inspection
import NameService.Report.Table
import NameService.Text.Timestamp

/-!
# Reports

What an inspection prints: a title between empty lines and a table with an empty
line behind it, or one sentence if there is nothing to show.
-/

namespace NameService
namespace Report

/-- A title and a table. -/
def titled (title : String) (table : Table) : String :=
  "\n" ++ title ++ "\n\n" ++ table.text ++ "\n\n"

/-- A sentence about a path. -/
def remark (sentence path : String) : String :=
  "\n" ++ sentence ++ " " ++ Text.quoted path ++ "\n\n"

/-- A number in decimal. -/
def number (value : Nat) : String := String.ofList (Text.decimal value)

/-- A table of properties and their values. -/
def properties (rows : List (String × String)) : Table :=
  ⟨["Property", "Value"], rows.map fun (property, value) => [property, value]⟩

/-- The counts and the digest of a tree. -/
def treeRows (tree : Tree) : List (String × String) :=
  [("Directories", number tree.directoryCount),
    ("Files", number tree.fileCount), ("Digest", tree.digest)]

/-- The word for a verdict. -/
def verdict : Inspection.Verdict → String
  | .sound => "OK"
  | .gapBefore => "GAP BEFORE"
  | .corrupt => "CORRUPT"

/-- The row of a segment. -/
def segmentRow (row : Inspection.SegmentRow) : List String :=
  [row.span.fileName, number row.span.first, number row.span.last,
    number row.records, verdict row.verdict]

/-- The report on the segments of a data directory. -/
def segments (settings : Settings) (disk : Disk) :
    Except InspectionError String :=
  (Inspection.segments settings disk).map fun rows =>
    if rows.isEmpty then
      remark "No sealed segments in" (settings.path Settings.editsName)
    else
      titled "Edit Log Segments"
        ⟨["Segment", "First", "Last", "Records", "Status"], rows.map segmentRow⟩

/-- The report on the image file at a path. -/
def image (disk : Disk) (location : Location) (path : String) :
    Except InspectionError String :=
  (Inspection.image disk location path).map fun facts =>
    titled "Namespace Image" (properties
      ([("Image", path), ("Size (bytes)", number facts.size),
        ("Txid", number facts.txid)] ++
        treeRows facts.tree))

/-- The report on what a restart would rebuild. -/
def replay (settings : Settings) (disk : Disk) :
    Except InspectionError String :=
  (Inspection.rebuild settings disk).map fun rebuilt =>
    titled "Replay" (properties
      ([("Image Txid", (rebuilt.imageTxid.map number).getD "none"),
        ("Checkpoint Txid", number rebuilt.checkpointTxid),
        ("Replay Floor", number rebuilt.floor),
        ("Records Replayed", number rebuilt.applied),
        ("Final Txid", number rebuilt.lastTxid)] ++ treeRows rebuilt.tree))

/-- The name of an image, with a remark if its file is missing. -/
def imageName (name : String) (present : Bool) : String :=
  if present then name else name ++ " (missing)"

/-- The row of a remembered checkpoint. -/
def checkpointRow : Inspection.Bookmark → List String
  | .primary txid imagePresent =>
      ["Primary", number txid, "-", imageName Settings.imageName imagePresent]
  | .backup info imagePresent =>
      ["Backup", number info.txid, Text.Timestamp.ofWord info.timestamp,
        imageName info.imageFile imagePresent]

/-- The report on the checkpoints that a data directory remembers. -/
def checkpoints (settings : Settings) (disk : Disk) :
    Except InspectionError String :=
  (Inspection.checkpoints settings disk).map fun rows =>
    if rows.isEmpty then
      remark "No checkpoint bookkeeping in" settings.dataDirectory
    else
      titled "Checkpoints"
        ⟨["Role", "Txid", "Taken", "Image"], rows.map checkpointRow⟩

end Report
end NameService
