import ApiContract.Cli.Command
import ApiContract.Config.Loader
import ApiContract.Service.App

/-!
# Running commands

`check` compiles the documents below a directory and says what they hold. `serve` loads the
configuration and builds the service that answers requests. Both stop at the first fault.

## Main definitions

* `World` — the files and variables that a command finds
* `CheckArguments.run` — what the documents of a directory hold
* `ServeArguments.loadConfig`, `ServeArguments.build` — the configuration and the service
* `runCommand` — what a command writes, and its exit status
-/

namespace ApiContract

/-- The files and variables that a command finds. -/
structure World where
  files : Files := {}
  environment : Variables := []

/-! ### Checking -/

/-- What a document holds. -/
structure CheckedApi where
  name : String
  models : Nat
  endpoints : Nat
  deriving DecidableEq, Repr

/-- What a document holds, on a line. -/
def CheckedApi.line (c : CheckedApi) : String :=
  s!"{c.name}: {c.models} models, {c.endpoints} endpoints\n"

namespace CheckArguments

/-- How documents are compiled. -/
def compiler (a : CheckArguments) : Compiler where
  artifacts := a.emit.elim .nowhere .directory
  force := a.emit.isSome
  policy := if a.allowUnbound then .stub else .require

/-- The handlers that are known: those that every service has, and further ones. -/
def table (handlers : HandlerTable) : HandlerTable :=
  let app : App := {}
  app.pingInfo.handlers.merge handlers

/-- Compiles documents one after another. -/
def compileAll (k : Compiler) (t : HandlerTable) :
    Workspace → List (String × Location) → Except StartupError (Workspace × List CheckedApi)
  | w, [] => .ok (w, [])
  | w, (api, l) :: rest => do
    let c ← (Contract.loadNamed w.files api l).mapError .contract
    let (w, r) := k.compile c t w
    let compiled ← r.mapError .contract
    let (w, more) ← compileAll k t w rest
    return (w, ⟨compiled.name, compiled.models.models.length, compiled.bindings.length⟩ :: more)

/-- What the documents below the directory hold, and the files with the models that are
written. -/
def run (a : CheckArguments) (files : Files) (handlers : HandlerTable) :
    Except StartupError (Files × List CheckedApi) := do
  let found ← (files.documents a.directory a.ignored).mapError .discovery
  let (w, checked) ← compileAll a.compiler (table handlers) { files } found
  return (w.files, checked)

end CheckArguments

/-! ### Serving -/

namespace ServeArguments

/-- The configuration document when none is asked for. -/
def defaultConfig : String := "ptolemy.toml"

/-- The configuration, and the variables once those of the file `.env` are set. A document that
is asked for must exist, and is no API document. -/
def loadConfig (a : ServeArguments) (w : World) : Except ConfigError (Config × Variables) := do
  let vars := w.environment.withFile w.files
  let path := a.config.getD defaultConfig
  let l : Loader := { overrides := some "PTOLEMY" }
  let l ← if a.config.isSome then l.withFile w.files path else l.withOptionalFile w.files path
  let l ← l.withVariant w.files path (a.env.orElse fun _ => vars.get? "PTOLEMY_ENV")
  let c ← l.load vars
  let own := (a.config.bind Path.stem?).toList
  let apis := { c.apis with
    path := a.apis.getD c.apis.path
    ignored := c.apis.ignored ++ a.ignored ++ own
    force := c.apis.force || a.force }
  return ({ c with apis }, vars)

/-- The filter of log records: that of the variable `RUST_LOG` unless it is blank, or else that
of the configuration. -/
def logFilter (c : Config) (vars : Variables) : String :=
  ((vars.get? "RUST_LOG").filter fun s => Text.trim s ≠ "").getD c.logging.level

/-- The service. -/
def build (a : ServeArguments) (w : World) (handlers : HandlerTable) :
    Except StartupError Service := do
  let (config, vars) ← (a.loadConfig w).mapError .config
  let filter := logFilter config vars
  if !LogFilter.accepts filter then throw (StartupError.logging (LogFilter.problem filter))
  let environment := (a.env.orElse fun _ => vars.get? "PTOLEMY_ENV").getD "dev"
  let app : App := {
    config, handlers, environment := some environment, port := a.port, discovers := true }
  app.build w.files (vars.get? "PORT")

end ServeArguments

/-! ### Commands -/

/-- What a command leaves behind: its exit status, what it writes, its files, and the service
that it has built. -/
structure CommandResult where
  status : Nat
  output : String := ""
  errors : String := ""
  files : Files := {}
  service : Option Service := none

/-- The exit status when words are no command: asking for help or the version is no fault. -/
def UsageFault.status : UsageFault → Nat
  | .help | .version => 0
  | _ => 2

/-- A command that has stopped at a fault. -/
def CommandResult.ofError (files : Files) (e : StartupError) : CommandResult :=
  { status := 1, errors := s!"error: {e.message}\n", files }

/-- What a command does in a world, with handlers beside those that every service has. -/
def Command.run (w : World) (handlers : HandlerTable) : Command → CommandResult
  | .check a =>
    match a.run w.files handlers with
    | .error e => .ofError w.files e
    | .ok (files, checked) =>
      { status := 0, output := String.join (checked.map CheckedApi.line), files }
  | .serve a =>
    match a.build w handlers with
    | .error e => .ofError w.files e
    | .ok service => { status := 0, files := w.files, service := some service }

end ApiContract
