import ApiContract.Config.Loader
import ApiContract.Exchange.Script
import ApiContract.Service.App

/-!
# Configuration in exchange

## Main definitions

* `Setup` — files, variables and the layers put together so far
* `Setup.step` — one more layer, as described
* `Config.derived` — what follows from a configuration
* `App.ofDescription` — an application, as described
* `ServerSettings.limits` — the limits of a server
-/

namespace ApiContract

/-- Files, variables and the layers put together so far. -/
structure Setup where
  files : Files
  environment : Variables := []
  loader : Loader := {}

namespace Setup

/-- Variables from pairs; the last value of a name is kept. -/
def variablesOf (j : Json) : Variables := Members.putAll (j.pairsAt "env")

/-- A setup with its layers changed. -/
def change (s : Setup) (l : Except ConfigError Loader) : Except ConfigError Setup :=
  l.map ({ s with loader := · })

/-- A setup with one more layer. -/
def step (s : Setup) (j : Json) : Except ConfigError Setup :=
  let l := s.loader
  let path := j.word 1
  match j.word 0 with
  | "file" => s.change (l.withFile s.files path)
  | "optional_file" => s.change (l.withOptionalFile s.files path)
  | "env_file" =>
    let env := (j.item 2).asStr?.orElse fun _ => s.environment.get? "PTOLEMY_ENV"
    s.change (l.withVariant s.files path env)
  | "string" => s.change (l.withText path (j.word 2))
  | "dotenv" => .ok { s with environment := s.environment.withFile s.files }
  | "defaults" => .ok { s with loader := l.withDefaults }
  | "development" => .ok { s with loader := l.withDevelopment }
  | "production" => .ok { s with loader := l.withProduction }
  | "env_prefix" => .ok { s with loader := l.withOverrides path }
  | _ => .ok s

end Setup

/-- A configuration and what follows from it, save the address. -/
def Config.derived (c : Config) : List (String × Json) :=
  [("config", c.toJson), ("slow_call_ms", .ofNat? c.slowCall),
    ("request_timeout_ms", .int c.server.requestTimeoutMs),
    ("body_timeout_ms", .int c.server.bodyTimeoutMs),
    ("shutdown_timeout_secs", .int c.server.shutdownTimeoutSecs),
    ("unknown_fields", .str c.codec.unknownFields.name),
    ("log", .arr [.str c.logging.level, .str c.logging.format.name, .bool c.logsPlace,
      .bool true, .bool true])]

/-- An application in exchange, with one hook that each ping runs; the error says why its
configuration is none. -/
def App.ofDescription (j : Json) : Except String App := do
  let config ← (j.given? "config").elim (.ok {}) Config.read
  let base : App := {}
  let service := j.textsAt "service"
  return { base with
    config
    handlers := Script.table j
    sources := (j.pairsAt "documents").map (fun d => Source.text d.1 d.2) ++
      (j.textsAt "document_files").map .file
    discovers := j.flagAt "discover"
    port := j.natAt? "port"
    service := service[0]?.getD base.service
    version := service[1]?.getD base.version
    environment := j.textAt? "environment"
    auth := (j.given? "auth").map Script.auth
    pre := (j.itemsAt "pre").map Script.preStage
    post := (j.itemsAt "post").map Script.postStage
    hooks := 1 }

/-- The limits of a server in exchange. -/
def ServerSettings.limits (s : ServerSettings) : Json :=
  .obj [("request_timeout_ms", .int s.requestTimeout), ("body_timeout_ms", .int s.bodyTimeout),
    ("shutdown_timeout_secs", .int (s.shutdownTimeout / 1000 : Nat)),
    ("max_body_bytes", .int s.maxBodyBytes), ("slow_call_ms", .ofNat? s.slowCall)]

end ApiContract
