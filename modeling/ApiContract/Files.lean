import ApiContract.Location
import ApiContract.Members

/-!
# Files

Documents, artifacts and settings are kept in a tree of directories and files. Every file
knows when it was written, by a clock that advances with each write. A path that does not start
at the root starts at the working directory.

## Main definitions

* `Entry` — a file, or a directory with its entries in increasing order of names
* `Files` — the tree, the working directory, and the clock
* `Files.resolve?` — the names that lead to a location from the root
* `Files.read?`, `Files.write?`, `Files.makeDirectories?` — files and directories by location
-/

namespace ApiContract

/-- A file with its text and the time at which it was written, or a directory. -/
inductive Entry where
  | file (text : String) (written : Int)
  | directory (entries : List (OsString × Entry))

namespace Entry

/-- The entry that names lead to. -/
def find? : List OsString → Entry → Option Entry
  | [], e => some e
  | name :: rest, .directory entries => (Members.lookup name entries).bind (find? rest)
  | _ :: _, .file .. => none

/-- Whether an entry is a directory. -/
def isDirectory : Entry → Bool
  | .directory _ => true
  | .file .. => false

/-- An entry, if there is one, with a change to what names lead to below it. Directories on the
way are made where they are missing; a file cannot hold entries. -/
def alter? (change : Option Entry → Option Entry) : List OsString → Option Entry → Option Entry
  | [], e? => change e?
  | name :: rest, e? =>
    match e?.getD (.directory []) with
    | .file .. => none
    | .directory entries =>
      (alter? change rest (Members.lookup name entries)).map fun new =>
        .directory (Members.insert name new entries)

/-- A file that is written anew, or over another one. It cannot take the place of a directory. -/
def overwrite (text : String) (written : Int) : Option Entry → Option Entry
  | some (.directory _) => none
  | _ => some (.file text written)

/-- A directory that is there, or is made. It cannot take the place of a file. -/
def makeDirectory : Option Entry → Option Entry
  | none => some (.directory [])
  | some (.directory entries) => some (.directory entries)
  | some (.file ..) => none

/-- An entry with a file below it, in directories that are made where they are missing. -/
def put? (text : String) (written : Int) (names : List OsString) (e : Entry) : Option Entry :=
  alter? (overwrite text written) names (some e)

/-- An entry with a directory below it, in directories that are made where they are missing. -/
def make? (names : List OsString) (e : Entry) : Option Entry :=
  alter? makeDirectory names (some e)

mutual

/-- The files at a location and below it, with their texts. -/
def texts (l : Location) : Entry → List (Location × String)
  | .file text _ => [(l, text)]
  | .directory entries => textsIn l entries

/-- The files below a directory, with their texts. -/
def textsIn (l : Location) : List (OsString × Entry) → List (Location × String)
  | [] => []
  | (name, e) :: rest => e.texts (l.entry name) ++ textsIn l rest

end

mutual

/-- When the file below an entry was written that was written last. -/
def latest : Entry → Int
  | .file _ written => written
  | .directory entries => latestIn entries

/-- When the file below entries was written that was written last. -/
def latestIn : List (OsString × Entry) → Int
  | [] => 0
  | (_, e) :: rest => max e.latest (latestIn rest)

end

end Entry

/-- The tree, the names that lead from its root to the working directory, and the time of the
next write. -/
structure Files where
  root : Entry := .directory []
  working : List OsString := []
  clock : Int := 0

namespace Files

/-- Where the names of a location start. -/
def start (f : Files) (l : Location) : List OsString :=
  if Path.isAbsolute l.path then [] else f.working

/-- One name further. A step upwards is possible only from a directory, and leads from the root
to the root. -/
def step? (f : Files) (reached : List OsString) (name : OsString) : Option (List OsString) :=
  if name = OsString.ofText ".." then
    if (f.root.find? reached).any Entry.isDirectory then some reached.dropLast else none
  else some (reached ++ [name])

/-- The names that lead to a location from the root. -/
def resolve? (f : Files) (l : Location) : Option (List OsString) :=
  if l.path.isEmpty then none else l.steps.foldlM f.step? (f.start l)

/-- The entry at a location. -/
def entry? (f : Files) (l : Location) : Option Entry := do
  let e ← f.root.find? (← f.resolve? l)
  if l.needsDirectory && !e.isDirectory then none else some e

/-- The text of the file at a location. -/
def read? (f : Files) (l : Location) : Option String :=
  match f.entry? l with
  | some (.file text _) => some text
  | _ => none

/-- When the file at a location was written; a directory counts as written just now. -/
def written? (f : Files) (l : Location) : Option Int :=
  (f.entry? l).map fun
    | .file _ written => written
    | .directory _ => f.clock

/-- The files of a tree whose texts another tree does not have, with those texts. -/
def newer (f old : Files) : List (Location × String) :=
  (f.root.texts "/").filter fun (l, text) => old.read? l ≠ some text

/-- The text of the file of a name in the working directory, or else in the nearest directory
above it that has one. -/
def nearest? (f : Files) (name : OsString) : Option String :=
  (List.range (f.working.length + 1)).reverse.findSome? fun n =>
    match f.root.find? (f.working.take n ++ [name]) with
    | some (.file text _) => some text
    | _ => none

/-- Whether there is anything at a location. -/
def contains (f : Files) (l : Location) : Bool := (f.entry? l).isSome

/-- One name further, to a directory that is made where it is missing. -/
def makeStep? (made : Files × List OsString) (name : OsString) :
    Option (Files × List OsString) :=
  let (f, reached) := made
  if name = OsString.ofText ".." then (f.step? reached name).map fun up => (f, up)
  else (f.root.make? (reached ++ [name])).map fun root =>
    ({ f with root }, reached ++ [name])

/-- The tree with a directory at a location, which is made, with those on the way, where it is
missing. -/
def makeDirectories? (f : Files) (l : Location) : Option Files :=
  if l.path.isEmpty then some f else (l.steps.foldlM makeStep? (f, f.start l)).map Prod.fst

/-- The tree with a file that was written at a given time. -/
def place? (f : Files) (l : Location) (text : String) (written : Int) : Option Files := do
  let names ← f.resolve? l
  if l.needsDirectory || names.isEmpty then none
  else return { f with root := ← f.root.put? text written names }

/-- The tree with a file written now. -/
def write? (f : Files) (l : Location) (text : String) : Option Files :=
  (f.place? l text f.clock).map fun f => { f with clock := f.clock + 1 }

end Files

end ApiContract
