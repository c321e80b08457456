import ApiContract.Config.Overrides
import ApiContract.Config.Validate
import ApiContract.Json.Read
import ApiContract.Text.Case
import ApiContract.Toml.Read
import ApiContract.Yaml.Read
import ApiContract.Yaml.Value

/-!
# Loading a configuration

A configuration is put together in layers, the later ones winning: a preset, documents in
the order in which they are added, and variables. Documents are merged key by key, so that
each names only what it changes; each must fit the sections on its own.

## Main definitions

* `Loader` — the layers put together so far
* `Json.merge` — a value with another laid over it
* `Loader.withDefaults`, `Loader.withDevelopment`, `Loader.withProduction` — presets
* `Loader.withFile`, `Loader.withText` — adding documents
* `Path.variant` — the document for an environment beside another
* `Loader.load`, `Loader.loadUnchecked` — the configuration
-/

namespace ApiContract

mutual

/-- A value with another laid over it: objects are merged key by key, and all else is
replaced. -/
def Json.merge (below above : Json) : Json :=
  match above with
  | .obj layer => match below with
    | .obj members => .obj (Json.mergeMembers members layer)
    | _ => .obj layer
  | other => other

/-- Members with others laid over them. -/
def Json.mergeMembers (members : List (String × Json)) :
    List (String × Json) → List (String × Json)
  | [] => members
  | (key, value) :: rest =>
    let value := match Members.lookup key members with
      | some old => Json.merge old value
      | none => value
    Json.mergeMembers (Members.insert key value members) rest

end

/-- The document for an environment: `a.toml` becomes `a.env.toml`. -/
def Path.variant (path env : String) : String :=
  let stem := (Path.stem? path).getD "ptolemy"
  Path.withFileName path (match Path.extension? path with
    | some extension => s!"{stem}.{env}.{extension}"
    | none => s!"{stem}.{env}")

/-- The JSON of a document. -/
def ConfigFormat.read (format : ConfigFormat) (text : String) : Except ConfigError Json :=
  let json? := match format with
    | .toml => Toml.read text
    | .json => Json.read text
    | .yaml => (Yaml.read text).bind (Yaml.jsonOf? Yaml.maxDepth)
  json?.elim (.error (.malformed format)) .ok

/-- The layers of a configuration put together so far: a preset, the documents merged over
it and their paths, and the common start of the variables that override them. -/
structure Loader where
  preset : Config := {}
  layers : Json := .obj []
  overrides : Option String := none
  files : List String := []

namespace Loader

/-- Starts over from the defaults. -/
def withDefaults (l : Loader) : Loader := { l with preset := {}, layers := .obj [] }

/-- The preset for development below the documents. -/
def withDevelopment (l : Loader) : Loader := { l with preset := .development }

/-- The preset for production below the documents. -/
def withProduction (l : Loader) : Loader := { l with preset := .production }

/-- Overrides by the variables whose names have a common start, in capitals. -/
def withOverrides (l : Loader) (start : String) : Loader :=
  { l with overrides := some (Text.upper start) }

/-- The layer of a document. A document without a value changes nothing, and every layer
fits the sections on its own. -/
def layer (text format origin : String) : Except ConfigError Json := do
  let format := Text.lower format
  let some f := ConfigFormat.ofExtension? format | .error (.unsupportedFormat format)
  let j ← f.read text
  let j := if j.isNull then .obj [] else j
  let _ ← (Config.read j).mapError (.misfit origin)
  return j

/-- One more layer. -/
def withLayer (l : Loader) (j : Json) : Loader :=
  { l with layers := l.layers.merge j }

/-- One more document in a named format. -/
def withText (l : Loader) (text format : String) : Except ConfigError Loader :=
  (layer text format "<string>").map l.withLayer

/-- One more document from a file, whose extension names its format. -/
def withFile (l : Loader) (files : Files) (path : String) : Except ConfigError Loader := do
  if !files.contains path then throw (.notFound path)
  let some text := files.read? path | .error (.unreadable path)
  let some format := Path.extension? path | .error (.unsupportedFormat path)
  let l := l.withLayer (← layer text format path)
  return { l with files := l.files ++ [path] }

/-- One more document from a file, if it exists. -/
def withOptionalFile (l : Loader) (files : Files) (path : String) :
    Except ConfigError Loader :=
  if files.contains path then l.withFile files path else .ok l

/-- The document for an environment beside another, if it exists. A blank environment has
none. -/
def withVariant (l : Loader) (files : Files) (path : String) (env : Option String) :
    Except ConfigError Loader :=
  match (env.map Text.trim).filter (· ≠ "") with
  | some env => l.withOptionalFile files (Path.variant path env)
  | none => .ok l

/-- The configuration of preset and documents. -/
def loadUnchecked (l : Loader) : Except ConfigError Config :=
  (Config.read (l.preset.toJson.merge l.layers)).mapError (.misfit "merged layers")

/-- The configuration with the overrides of variables, if it is valid. -/
def load (l : Loader) (vars : Variables) : Except ConfigError Config := do
  let c ← l.loadUnchecked
  let c ← match l.overrides with
    | some start => c.override start vars
    | none => .ok c
  c.validate
  return c

end Loader

end ApiContract
