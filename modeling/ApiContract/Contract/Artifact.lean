import ApiContract.Contract.Error
import ApiContract.Files
import ApiContract.Json.Read
import ApiContract.Json.Write
import ApiContract.Model.Stored
import ApiContract.Time.Pattern

/-!
# Artifacts

The compiled models of an API are kept in a file, so that a document which has not changed
since need not be compiled again.

## Main definitions

* `Artifact` — the models of an API as kept in a file
* `Artifact.read`, `Artifact.write` — artifacts in files
-/

namespace ApiContract

/-- The models of an API as kept in a file: the document they come from, if it is a file,
and when they were compiled. -/
structure Artifact where
  api : String
  source : Option String := none
  compiledAt : Instant
  models : List Model

namespace Artifact

/-- The artifact of a set of models. -/
def ofModels (set : ModelSet) (source : Option String) (compiledAt : Instant) : Artifact :=
  { api := set.api, source, compiledAt, models := set.models }

/-- The set of the models. -/
def toModels (a : Artifact) : ModelSet :=
  a.models.foldl ModelSet.insert { api := a.api }

/-- An artifact as JSON. -/
def toJson (a : Artifact) : Json :=
  .obj ([("api", .str a.api)] ++ (a.source.map fun s => ("source", Json.str s)).toList ++
    [("compiled_at", .str (TimePattern.formatExact a.compiledAt)),
      ("models", .arr (a.models.map Model.toJson))])

/-- The artifact that JSON holds. -/
def ofJson? (json : Json) : Option Artifact := do
  let members ← Json.record? ["api", "source", "compiled_at", "models"] json
  let api ← Json.required? "api" members Json.asStr?
  let source ← Json.optional? "source" members Json.asStr?
  let compiledAt ← Json.required? "compiled_at" members fun j => j.asStr?.bind Instant.readStored?
  let models ← Json.required? "models" members (Json.items? Model.ofJson?)
  return { api, source, compiledAt, models }

/-- The artifact in a file. -/
def read (files : Files) (l : Location) : Except ContractError Artifact :=
  match files.read? l with
  | none => .error (.unreadable l.display)
  | some text =>
    match (Json.readAsWritten text).bind ofJson? with
    | some a => .ok a
    | none => .error (.invalidArtifact l.display)

/-- The files with a directory for an artifact, which is made where it is missing. -/
def makeRoom (files : Files) (l : Location) : Except ContractError Files :=
  match l.parent? with
  | none => .ok files
  | some directory =>
    match files.makeDirectories? directory with
    | some files => .ok files
    | none => .error (.unreadable directory.display)

/-- The files with an artifact written to one of them. Directories are made as needed. -/
def write (a : Artifact) (files : Files) (l : Location) : Except ContractError Files := do
  let files ← makeRoom files l
  match files.write? l a.toJson.pretty with
  | some files => return files
  | none => .error (.unreadable l.display)

end Artifact

end ApiContract
