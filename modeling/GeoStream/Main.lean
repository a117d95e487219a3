import GeoStream.Cli.Commands

/-!
# The program

Runs a command line on the real files: those that the arguments name are read beforehand, the
command is carried out on what was read, and files that it changed are written afterwards.
-/

namespace GeoStream

/-- Adds what is found at a place. -/
private def load (files : Files) (place : Place) : IO Files := do
  let path := (← IO.currentDir) / Files.pathOf place
  if ← path.isDir then
    return { files with directories := place :: files.directories }
  else if ← path.pathExists then
    return files.put place (← IO.FS.readBinFile path)
  else return files

/-- The files that some arguments name, and the directories on the way to them. -/
private def loadAll (args : List Text) : IO Files :=
  (args.flatMap Files.placesOf).foldlM load Files.empty

/-- Writes the files that differ from what they were. -/
private def store (before after : Files) : IO Unit :=
  after.entries.forM fun (place, bytes) => do
    if before.entries.lookup place != some bytes then
      IO.FS.writeBinFile (Files.pathOf place) bytes

/-- Milliseconds as seconds with one decimal. -/
private def seconds (ms : Nat) : String := (Binary64.ofQuotient false ms 1000).fixedText 1

/-- Runs a command line and gives its exit code. A run that a fault ended has code 1. -/
def program (args : List String) : IO UInt32 := do
  let start ← IO.monoMsNow
  let args := args.map Text.ofString
  let files ← loadAll args
  let report := Cli.run .utf8 args files
  store files report.files
  let stop ← IO.monoMsNow
  IO.print (report.stdout (seconds (stop - start))).toString
  IO.eprint report.stderr.toString
  match report.ending with
  | .code n => return n.toUInt32
  | .raised fault =>
    IO.eprintln fault.name
    return 1

end GeoStream

def main (args : List String) : IO UInt32 := GeoStream.program args
