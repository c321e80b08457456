import ApiContract.Path
import ApiContract.Text.OsString

/-!
# Locations

A path that is asked for is a text. What a walk finds below it is at the names of entries, which
need not be texts, so that not every path is one.

## Main definitions

* `Location` — a path, with the names that lead on from there
* `Location.steps` — all the names of a location
* `Location.fileName?`, `Location.stem?`, `Location.extension?` — the last name and its parts
* `Location.parent?`, `Location.below` — building locations from others
-/

namespace ApiContract

/-- A path, and the names of entries that lead on from where it leads. -/
structure Location where
  path : String
  names : List OsString := []
  deriving DecidableEq, Repr

namespace Location

instance : Coe String Location := ⟨fun path => { path }⟩

/-- The names of a location in order. -/
def steps (l : Location) : List OsString :=
  (Path.names l.path).map OsString.ofText ++ l.names

/-- The last name of a location, unless it leads upwards. -/
def fileName? (l : Location) : Option OsString :=
  l.steps.getLast?.filter (· ≠ OsString.ofText "..")

/-- The last name without its extension. -/
def stem? (l : Location) : Option OsString :=
  l.fileName?.map fun name => name.splitName.1

/-- What follows the last dot in the last name. -/
def extension? (l : Location) : Option OsString :=
  l.fileName?.bind fun name => name.splitName.2

/-- The location of an entry in the directory at a location. -/
def entry (l : Location) (name : OsString) : Location :=
  { l with names := l.names ++ [name] }

/-- A location below another; an absolute path stands for itself. -/
def below (l : Location) (path : String) : Location :=
  if l.names.isEmpty then { path := Path.join l.path path }
  else if Path.isAbsolute path then { path }
  else { l with names := l.names ++ (Path.names path).map OsString.ofText }

/-- The location without its last name, if it has one. -/
def parent? (l : Location) : Option Location :=
  match l.names with
  | [] => (Path.parent? l.path).map fun path => { path }
  | [_] => some { path := Path.trimmed l.path }
  | names => some { l with names := names.dropLast }

/-- The path that a location is, if all names are texts. -/
def text? (l : Location) : Option String :=
  l.names.foldlM (fun path name => name.text?.map (Path.join path)) l.path

/-- A location on a page. -/
def display (l : Location) : String :=
  l.names.foldl (fun path name => Path.join path name.display) l.path

/-- Whether only a directory can be at a location: its path ends in a slash, or in a dot that
stands for nothing. -/
def needsDirectory (l : Location) : Bool :=
  l.names.isEmpty && (Text.endsWith l.path "/" || Text.endsWith l.path "/.")

end Location

end ApiContract
