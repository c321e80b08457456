import ApiContract.Cli.Run

/-!
# The command line

Commands work on a tree of which the part below the working directory is read before a command
runs and brought up to date after it. A service that `serve` has built is described; to accept
connections for it is left to its host.

## Main definitions

* `readTree`, `writeTree` — the tree of the working directory
* `main` — runs the command that the arguments give
-/

namespace ApiContract

/-- An entry of a directory: a file with its text and time, or a directory with its entries.
What cannot be read is left out. -/
partial def readEntry (e : IO.FS.DirEntry) : IO (Option (OsString × Entry)) := do
  try
    if ← e.path.isDir then
      let entries ← (← e.path.readDir).toList.filterMapM readEntry
      return some (e.fileName, .directory (Members.ofList entries))
    let written := (← e.path.metadata).modified.sec
    return some (e.fileName, .file (← IO.FS.readFile e.path) written)
  catch _ => return none

/-- The tree as far as it is below the working directory; its clock stands where the newest file
was written. -/
def readTree : IO Files := do
  let place ← IO.currentDir
  let entries ← (← place.readDir).toList.filterMapM readEntry
  let working := (Path.names place.toString).map OsString.ofText
  let below := Entry.directory (Members.ofList entries)
  let root := working.foldr (fun name e => Entry.directory [(name, e)]) below
  return { root, working, clock := root.latest }

/-- Writes the files that a command has written. -/
def writeTree (old new : Files) : IO Unit := do
  for (l, text) in new.newer old do
    if let some parent := l.parent? then IO.FS.createDirAll parent.display
    IO.FS.writeFile l.display text

/-- The variables that commands look at, as far as they are set. -/
def readVariables : IO Variables := do
  let names := ["PORT", "PTOLEMY_ENV", "RUST_LOG"] ++ Config.overrideNames "PTOLEMY"
  names.filterMapM fun name => do
    return (← IO.getEnv name).map fun value => (name, value)

/-- Runs a command and yields its exit status. -/
def runHere (command : Command) : IO UInt32 := do
  let files ← readTree
  let result := command.run { files, environment := ← readVariables } {}
  writeTree files result.files
  IO.print result.output
  IO.eprint result.errors
  if let some service := result.service then
    IO.println s!"{service.settings.address}"
    for binding in service.dispatcher.routes.bindings do
      IO.println binding.describe
  return result.status.toUInt32

end ApiContract

open ApiContract

/-- Runs the command that the arguments give. -/
def main (args : List String) : IO UInt32 := do
  match Command.read args with
  | .ok command => runHere command
  | .error fault =>
    let status := fault.status
    if fault = .version then IO.println "ptolemy 0.1.0"
    else if status = 0 then IO.print Command.usage
    else IO.eprint Command.usage
    return status.toUInt32
