import NameService.Report

/-!
# The command line

Prints a report on a data directory or on an image file:

    segments DIRECTORY
    replay DIRECTORY
    checkpoint DIRECTORY
    image FILE

The first three look at the files whose paths come on standard input, one a
line, as a search below the directory lists them.
-/

namespace NameService
namespace CommandLine

/-- The lines that are left on standard input. -/
partial def readLines (input : IO.FS.Stream) (lines : List String) :
  IO (List String) := do
  let line ← input.getLine
  if line.isEmpty then pure lines.reverse
  else readLines input (String.ofList (line.toList.filter (· != '\n')) :: lines)

/-- A disk with the files at paths. What cannot be read is left out. -/
def loadFiles : List String → Disk → IO Disk
  | [], disk => pure disk
  | path :: rest, disk => do
      match ← (IO.FS.readBinFile path).toBaseIO with
      | .ok content =>
          loadFiles rest
            (disk.plant (FilePath.location path) (some content.toList)).1
      | .error _ => loadFiles rest disk

/-- Print a report, or its error. -/
def print : Except InspectionError String → IO UInt32
  | .ok report => do
      IO.print report
      pure 0
  | .error cause => do
      IO.eprintln ("Error: " ++ cause.message)
      pure 1

/-- Print the report of a data directory. -/
def inspect
    (report : Settings → Disk → Except InspectionError String)
    (directory : String) :
    IO UInt32 := do
  let disk ← loadFiles (← readLines (← IO.getStdin) []) Disk.empty
  print (report (Settings.ofDirectory directory) disk)

/-- Carry out a command. -/
def run : List String → IO UInt32
  | ["segments", directory] => inspect Report.segments directory
  | ["replay", directory] => inspect Report.replay directory
  | ["checkpoint", directory] => inspect Report.checkpoints directory
  | ["image", path] => do
      let disk ← loadFiles [path] Disk.empty
      print (Report.image disk (FilePath.location path) path)
  | _ => do
      IO.eprintln "usage: segments|replay|checkpoint DIRECTORY, or image FILE"
      pure 2

end CommandLine
end NameService

/-- Run the command that the arguments name. -/
def main (arguments : List String) : IO UInt32 :=
  NameService.CommandLine.run arguments
