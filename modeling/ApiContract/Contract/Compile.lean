import ApiContract.Contract.Artifact
import ApiContract.Contract.Endpoint

/-!
# Compiling contracts

A contract is a document under the name of its API. Compiling it registers its models and
binds its operations. The models may come from an artifact that is no older than the
document.

## Main definitions

* `Contract`, `Contract.parse`, `Contract.load` — a document, from a text or a file
* `Contract.loadModels` — the models, compiled or from an artifact
* `Compiler.compile` — models registered and operations bound
-/

namespace ApiContract

/-- A document under the name of its API, and its file, if it comes from one, with the time
at which that was written. -/
structure Contract where
  api : String
  document : Document
  file : Option (Location × Int) := none

namespace Contract

/-- The contract in a text. -/
def parse (api text : String) : Except ContractError Contract :=
  match Document.read? text with
  | none => .error (.malformed api)
  | some document =>
    if document.version = "2.0" then .ok { api, document }
    else .error (.unsupportedVersion api document.version)

/-- The contract in a file, under a given name. -/
def loadNamed (files : Files) (api : String) (l : Location) : Except ContractError Contract :=
  match files.read? l, files.written? l with
  | some text, some written => do
    return { ← parse api text with file := some (l, written) }
  | _, _ => .error (.unreadable l.display)

/-- The contract in a file, under the file's name without extension; a name that is no text
counts as empty. -/
def load (files : Files) (l : Location) : Except ContractError Contract :=
  loadNamed files ((l.stem?.bind OsString.text?).getD "") l

/-- Whether something built at a time is older than the contract. A contract without file is
never newer. -/
def isStale (c : Contract) (built : Int) : Bool :=
  c.file.any fun f => built < f.2

/-- What the name of an artifact ends in. -/
def artifactSuffix : String := ".models.json"

/-- Where the artifact of a contract is kept: in the given directory, or else beside the
document. -/
def artifactLocation? (c : Contract) (directory : Option String) : Option Location :=
  match directory with
  | some path => some (Path.join path (c.api ++ artifactSuffix))
  | none => (c.file.bind fun f => f.1.parent?).map fun l => l.below (c.api ++ artifactSuffix)

/-- Where the artifact of a contract is kept, on a page. -/
def artifactPath? (c : Contract) (directory : Option String) : Option String :=
  (c.artifactLocation? directory).map Location.display

/-- Whether an artifact is there and no older than the contract. -/
def isFresh (c : Contract) (files : Files) (l : Location) : Bool :=
  (files.written? l).any fun built => !c.isStale built

/-- The artifact at a location, if it is fresh and belongs to the contract. -/
def freshArtifact? (c : Contract) (files : Files) (l : Location) :
    Except ContractError (Option Artifact) :=
  if !c.isFresh files l then .ok none
  else do
    let a ← Artifact.read files l
    return if a.api = c.api then some a else none

/-- The models of a contract, compiled. -/
def models (c : Contract) : Except ContractError ModelSet :=
  compileModels c.api c.document.definitions

/-- The file of a contract as its artifact names it, if it can. -/
def source? (c : Contract) : Option String :=
  c.file.bind fun f => f.1.text?

/-- The models of a contract, compiled and written to an artifact. No artifact can name a file
that is no text. -/
def rebuild (c : Contract) (files : Files) (l : Location) :
    Except ContractError (ModelSet × Files) := do
  let set ← c.models
  if c.file.isSome && c.source?.isNone then
    let _ ← Artifact.makeRoom files l
    throw (.invalidArtifact l.display)
  let a := Artifact.ofModels set c.source? (Instant.ofUnix files.clock)
  return (set, ← a.write files l)

/-- The models of a contract: from its artifact, if that is fresh, unless `force` is set, or
else compiled and written to it. -/
def loadModels (c : Contract) (files : Files) (directory : Option String) (force : Bool) :
    Except ContractError (ModelSet × Files) :=
  match c.artifactLocation? directory with
  | none => c.models.map fun set => (set, files)
  | some l =>
    if force then c.rebuild files l
    else do
      match ← c.freshArtifact? files l with
      | some a => return (a.toModels, files)
      | none => c.rebuild files l

end Contract

/-- A compiled API. -/
structure CompiledApi where
  name : String
  version : Option String
  models : ModelSet
  bindings : List Binding

/-- Where models are kept: nowhere, beside their document, or in a directory. -/
inductive ArtifactPlace where
  | nowhere
  | besideDocument
  | directory (path : String)
  deriving DecidableEq, Repr

/-- How documents are compiled. -/
structure Compiler where
  artifacts : ArtifactPlace := .nowhere
  force : Bool := false
  policy : HandlerPolicy := .require

/-- What compiling changes: the files, and the registered models. -/
structure Workspace where
  files : Files := {}
  registry : Registry := {}

namespace Compiler

/-- The models of a contract from where models are kept. -/
def models (k : Compiler) (c : Contract) (files : Files) :
    Except ContractError (ModelSet × Files) :=
  match k.artifacts with
  | .nowhere => c.models.map fun set => (set, files)
  | .besideDocument => c.loadModels files none k.force
  | .directory path => c.loadModels files (some path) k.force

/-- Registers the models of a contract, then binds its operations. When an operation is
refused the models stay registered. -/
def compile (k : Compiler) (c : Contract) (t : HandlerTable) (w : Workspace) :
    Workspace × Except ContractError CompiledApi :=
  match k.models c w.files with
  | .error e => (w, .error e)
  | .ok (set, files) =>
    let w := { w with files }
    match w.registry.register set with
    | .error e => (w, .error (.refused e))
    | .ok registry =>
      ({ w with registry }, do
        let bindings ← compileEndpoints c.api c.document t k.policy
        return { name := c.api, version := c.document.apiVersion, models := set, bindings })

end Compiler

end ApiContract
