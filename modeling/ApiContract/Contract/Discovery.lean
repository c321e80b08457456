import ApiContract.Files

/-!
# Discovery of API documents

Every file below a directory with the extension `yaml` or `yml` is an API document under its
name without extension, except files that editors leave behind, configuration files, hidden
files, those in hidden directories, and those whose names are no texts.

## Main definitions

* `apiName?` — the API of a file
* `Entry.locations` — the files below an entry
* `Files.documents` — the documents below a directory, by the names of their APIs
-/

namespace ApiContract

/-- Why there is no list of documents. -/
inductive DiscoveryError where
  | unreadable (directory : String)
  | duplicate (api : String) (first second : Location)
  deriving DecidableEq, Repr

/-- The wording of a discovery error. -/
def DiscoveryError.message : DiscoveryError → String
  | .unreadable directory => s!"cannot scan {directory}: *"
  | .duplicate api first second =>
    s!"API '{api}' is defined by both {first.display} and {second.display}"

/-- Whether a name is that of a configuration file without its extension. -/
def isConfigStem (stem : String) : Bool :=
  stem = "ptolemy" || Text.startsWith stem "ptolemy."

/-- The API of a file, if the file is an API document. A name that is no text is none. -/
def apiName? (l : Location) : Option String := do
  let name ← (← l.fileName?).text?
  if Text.startsWith name "#" || Text.startsWith name ".#" then none
  else
    let extension ← (← l.extension?).text?
    if !(["yaml", "yml"].contains extension) then none
    else
      let stem ← (← l.stem?).text?
      if isConfigStem stem then none else return stem

/-- Whether a name is hidden; what editors leave behind is not, nor is a name that is no text. -/
def isHiddenName (name : OsString) : Bool :=
  name.text?.any fun name => Text.startsWith name "." && !Text.startsWith name ".#"

mutual

/-- The files at a location and below it, in the order of their names. -/
def Entry.locations (l : Location) : Entry → List Location
  | .file .. => [l]
  | .directory entries => Entry.locationsIn l entries

/-- The files below a directory that are neither hidden nor in a hidden directory. -/
def Entry.locationsIn (l : Location) : List (OsString × Entry) → List Location
  | [] => []
  | (name, e) :: rest =>
    (if isHiddenName name then [] else e.locations (l.entry name)) ++ Entry.locationsIn l rest

end

/-- The documents found so far, with one more. -/
def addDocument (ignored : List String) (found : List (String × Location)) (l : Location) :
    Except DiscoveryError (List (String × Location)) :=
  match apiName? l with
  | none => .ok found
  | some api =>
    if ignored.contains api then .ok found
    else match Members.lookup api found with
      | some first => .error (.duplicate api first l)
      | none => .ok (Members.insert api l found)

/-- The documents at and below a path, by the names of their APIs in increasing order, without
the APIs that are ignored. -/
def Files.documents (f : Files) (path : String) (ignored : List String) :
    Except DiscoveryError (List (String × Location)) :=
  match f.entry? path with
  | none => .error (.unreadable path)
  | some e => (e.locations path).foldlM (addDocument ignored) []

/-- The documents at and below a path as they are listed on a page. -/
def Files.discover (f : Files) (path : String) (ignored : List String) :
    Except DiscoveryError (List (String × String)) :=
  (f.documents path ignored).map fun found => found.map fun d => (d.1, d.2.display)

end ApiContract
