import ApiContract.Config.Validate
import ApiContract.Contract.Discovery
import ApiContract.Service.Auth
import ApiContract.Service.Dispatch
import ApiContract.Service.Ping
import ApiContract.Service.Settings

/-!
# Applications

An application is a configuration with handlers, documents and stages. Building it compiles
every document, adds the API that every service has, and yields a service: a dispatcher, and
the settings of its server. Any fault on the way leaves nothing to serve.

## Main definitions

* `App` — what a service is built from
* `StartupError` — why there is no service
* `App.contracts`, `App.chain` — the documents and stages of an application
* `App.build` — the service
-/

namespace ApiContract

/-- Why there is no service. -/
inductive StartupError where
  | config (e : ConfigError)
  | logging (reason : String)
  | discovery (e : DiscoveryError)
  | contract (e : ContractError)
  | routes (e : RouteConflict)

/-- The wording of a startup error. -/
def StartupError.message : StartupError → String
  | .config e => e.message
  | .logging reason => reason
  | .discovery e => e.message
  | .contract e => e.message
  | .routes e => e.message

/-- Where a document comes from. -/
inductive Source where
  | text (api document : String)
  | file (path : String)
  deriving DecidableEq, Repr

/-- The document from a source. -/
def Source.contract (files : Files) : Source → Except ContractError Contract
  | .text api document => Contract.parse api document
  | .file path => Contract.load files path

/-- What a service is built from. -/
structure App where
  config : Config := {}
  handlers : HandlerTable := {}
  sources : List Source := []
  /-- Whether the documents below the path of the configuration are served too. -/
  discovers : Bool := false
  port : Option Nat := none
  service : String := "ptolemy"
  version : String := "0.1.0"
  environment : Option String := none
  auth : Option BearerAuth := none
  pre : List PreStage := []
  post : List PostStage := []
  /-- How many hooks each ping runs. -/
  hooks : Nat := 0

/-- What requests are answered with, the settings of its server, and the names of its APIs. -/
structure Service where
  dispatcher : Dispatcher
  settings : ServerSettings
  apis : List String

namespace App

/-- The name of the service in reports. -/
def serviceName (a : App) : String :=
  a.config.reporting.serviceName.getD a.service

/-- The documents that are discovered. -/
def discovered (a : App) (files : Files) : Except StartupError (List Contract) := do
  if !a.discovers then return []
  let found ← (files.documents a.config.apis.path a.config.apis.ignored).mapError .discovery
  found.mapM fun (api, l) => (Contract.loadNamed files api l).mapError .contract

/-- The documents of an application: those that are discovered, and then its own. -/
def contracts (a : App) (files : Files) : Except StartupError (List Contract) := do
  let found ← a.discovered files
  let own ← a.sources.mapM fun s => (s.contract files).mapError .contract
  return found ++ own

/-- How the documents of an application are compiled. -/
def compiler (a : App) : Compiler :=
  match a.config.apis.artifactDir with
  | some dir => { artifacts := .directory dir, force := a.config.apis.force }
  | none => {}

/-- What is running, as far as it is known before the documents are compiled. -/
def pingInfo (a : App) : PingInfo :=
  { name := a.serviceName, version := a.version, env := a.environment.getD "",
    hooks := a.hooks }

/-- The stages of an application: the identifier of the request, authentication and its own
stages, and at the end the log. -/
def chain (a : App) : Chain :=
  { pre := requestIdBefore true :: (a.auth.map BearerAuth.stage).toList ++ a.pre
    post := requestIdAfter :: a.post ++ [accessLog] }

/-- Compiles contracts one after another with the same handlers. -/
def compileAll (k : Compiler) (t : HandlerTable) :
    Workspace → List Contract → Except ContractError (Workspace × List CompiledApi)
  | w, [] => .ok (w, [])
  | w, c :: rest => do
    let (w, r) := k.compile c t w
    let api ← r
    let (w, more) ← compileAll k t w rest
    return (w, api :: more)

/-- The documents of an application compiled, and the API of every service after them. -/
def compiled (a : App) (files : Files) :
    Except StartupError (Registry × List CompiledApi) := do
  let contracts ← a.contracts files
  let names := (contracts.map (·.api)).filter (· ≠ pingApi)
  let builtin := a.config.apis.builtin
  let handlers :=
    if builtin then a.handlers.merge { a.pingInfo with apis := names }.handlers
    else a.handlers
  let (w, apis) ← (compileAll a.compiler handlers { files } contracts).mapError .contract
  if !builtin then return (w.registry, apis)
  let (w, own) ← (compileAll {} handlers w [pingContract]).mapError .contract
  return (w.registry, apis ++ own)

/-- The settings of the server at an address. -/
def settings (a : App) (address : SocketAddress) : ServerSettings :=
  let s := a.config.server
  { address := address.toText
    requestTimeout := s.requestTimeoutMs
    bodyTimeout := s.bodyTimeoutMs
    shutdownTimeout := 1000 * s.shutdownTimeoutSecs
    maxBodyBytes := s.maxBodyBytes
    slowCall := a.config.slowCall }

/-- The service of an application. The variable `PORT` may name the port. -/
def build (a : App) (files : Files) (portVariable : Option String) :
    Except StartupError Service := do
  a.config.validate.mapError .config
  let address ← (a.config.bindAddress a.port portVariable).mapError .config
  let (registry, apis) ← a.compiled files
  let desk : CrashDesk := {
    service := a.serviceName, port := address.port, enabled := a.config.reporting.enabled }
  let dispatcher : Dispatcher := {
    registry, desk
    chain := a.chain
    codec := a.config.codecOptions
    timeout := a.config.server.requestTimeoutMs
    slowCall := a.config.slowCall }
  return {
    dispatcher := ← (dispatcher.withApis apis).mapError .routes
    settings := a.settings address
    apis := (apis.map (·.name)).filter (· ≠ pingApi) }

/-- An application in logs. -/
def describe (a : App) : String :=
  "App \x7b service: " ++ Text.quoted a.service ++ ", version: " ++ Text.quoted a.version ++
    s!", documents: {a.sources.length}, discover: {a.discovers}, " ++
    s!"handlers: {a.handlers.names.length}, .. \x7d"

end App

end ApiContract
