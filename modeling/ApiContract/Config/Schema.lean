import ApiContract.Json.Typed
import ApiContract.Model.Instance

/-!
# Configuration

A configuration has five sections. Each member has a default, so that a document names only
what it changes; members that do not exist are refused.

## Main definitions

* `Config` and its sections `ServerSection`, `ApisSection`, `CodecSection`,
  `ReportingSection` and `LoggingSection`
* `Config.development`, `Config.production` — presets
* `Config.toJson`, `Config.read` — a configuration as JSON
* `Config.slowCall`, `Config.codecOptions` — what follows from a configuration
-/

namespace ApiContract

/-- How log records are written. -/
inductive LogFormat where
  | json
  | pretty
  deriving DecidableEq, Repr

namespace LogFormat

/-- The name of a log format. -/
def name : LogFormat → String
  | .json => "json"
  | .pretty => "pretty"

/-- The log formats by name. -/
def choices : List (String × LogFormat) :=
  [json, pretty].map fun f => (f.name, f)

/-- A log format written by hand: blanks around it and the case of its letters do not
count. The error is the text without them. -/
def read (s : String) : Except String LogFormat :=
  let word := Text.lowerAscii (Text.trim s)
  (Members.lookup word choices).elim (.error word) .ok

/-- Why a text is no log format. -/
def problem (word : String) : String :=
  s!"invalid logging configuration: unknown log format '{word}', expected json or pretty"

end LogFormat

/-- Where the service listens, and its limits. -/
structure ServerSection where
  address : String := "0.0.0.0:8080"
  /-- Takes the place of the port in the address. -/
  port : Option Nat := none
  requestTimeoutMs : Nat := 30000
  bodyTimeoutMs : Nat := 10000
  shutdownTimeoutSecs : Nat := 30
  maxBodyBytes : Nat := 16 * 1024 * 1024
  deriving DecidableEq, Repr

/-- Where API documents are, and how they are compiled. -/
structure ApisSection where
  path : String := "apis"
  ignored : List String := []
  /-- Whether the built-in `ping` API is served. -/
  builtin : Bool := true
  artifactDir : Option String := none
  /-- Whether documents are compiled even when an artifact is fresh. -/
  force : Bool := false
  deriving DecidableEq, Repr

/-- How models are read from JSON and written to it. -/
structure CodecSection where
  unknownFields : UnknownFields := .reject
  timestampFormat : String := "%Y-%m-%dT%H:%M:%S%.6fZ"
  deriving DecidableEq, Repr

/-- Which calls are reported. -/
structure ReportingSection where
  enabled : Bool := true
  /-- Calls that take longer are reported, unless it is 0. -/
  slowCallMs : Nat := 1000
  serviceName : Option String := none
  deriving DecidableEq, Repr

/-- What is logged, and how. -/
structure LoggingSection where
  level : String := "info"
  format : LogFormat := .json
  deriving DecidableEq, Repr

/-- A configuration. -/
structure Config where
  server : ServerSection := {}
  apis : ApisSection := {}
  codec : CodecSection := {}
  reporting : ReportingSection := {}
  logging : LoggingSection := {}
  deriving DecidableEq, Repr

/-! ### Reading -/

section Shapes

open Json.Typed

/-- The members of the server section. -/
def ServerSection.shape : Json.RecordShape ServerSection where
  name := "ServerSection"
  members := [
    ⟨"http_addr", fun s j => (text "a string" j).map ({ s with address := · })⟩,
    ⟨"port", fun s j => (option (nat 16 "u16") j).map ({ s with port := · })⟩,
    ⟨"request_timeout_ms", fun s j => (nat 64 "u64" j).map ({ s with requestTimeoutMs := · })⟩,
    ⟨"body_timeout_ms", fun s j => (nat 64 "u64" j).map ({ s with bodyTimeoutMs := · })⟩,
    ⟨"shutdown_timeout_secs",
      fun s j => (nat 64 "u64" j).map ({ s with shutdownTimeoutSecs := · })⟩,
    ⟨"max_body_bytes", fun s j => (nat 64 "usize" j).map ({ s with maxBodyBytes := · })⟩]

/-- The members of the section on API documents. -/
def ApisSection.shape : Json.RecordShape ApisSection where
  name := "ApisSection"
  members := [
    ⟨"path", fun s j => (text "path string" j).map ({ s with path := · })⟩,
    ⟨"ignore", fun s j => (list (text "a string") j).map ({ s with ignored := · })⟩,
    ⟨"builtin", fun s j => (flag j).map ({ s with builtin := · })⟩,
    ⟨"artifact_dir", fun s j => (option (text "path string") j).map ({ s with artifactDir := · })⟩,
    ⟨"force", fun s j => (flag j).map ({ s with force := · })⟩]

/-- What may be done with unknown fields, by name. -/
def UnknownFields.choices : List (String × UnknownFields) :=
  [reject, tolerate].map fun u => (u.name, u)

/-- The members of the codec section. -/
def CodecSection.shape : Json.RecordShape CodecSection where
  name := "CodecSection"
  members := [
    ⟨"unknown_fields",
      fun s j => (choice UnknownFields.choices j).map ({ s with unknownFields := · })⟩,
    ⟨"timestamp_format", fun s j => (text "a string" j).map ({ s with timestampFormat := · })⟩]

/-- The members of the reporting section. -/
def ReportingSection.shape : Json.RecordShape ReportingSection where
  name := "ReportingSection"
  members := [
    ⟨"enabled", fun s j => (flag j).map ({ s with enabled := · })⟩,
    ⟨"slow_call_ms", fun s j => (nat 64 "u64" j).map ({ s with slowCallMs := · })⟩,
    ⟨"service_name", fun s j => (option (text "a string") j).map ({ s with serviceName := · })⟩]

/-- The members of the logging section. -/
def LoggingSection.shape : Json.RecordShape LoggingSection where
  name := "LoggingSection"
  members := [
    ⟨"level", fun s j => (text "a string" j).map ({ s with level := · })⟩,
    ⟨"format", fun s j => (choice LogFormat.choices j).map ({ s with format := · })⟩]

end Shapes

namespace Config

/-- The sections of a configuration. -/
def shape : Json.RecordShape Config where
  name := "PtolemyConfig"
  members := [
    ⟨"server", fun c j => (ServerSection.shape.read {} j).map ({ c with server := · })⟩,
    ⟨"apis", fun c j => (ApisSection.shape.read {} j).map ({ c with apis := · })⟩,
    ⟨"codec", fun c j => (CodecSection.shape.read {} j).map ({ c with codec := · })⟩,
    ⟨"reporting", fun c j => (ReportingSection.shape.read {} j).map ({ c with reporting := · })⟩,
    ⟨"logging", fun c j => (LoggingSection.shape.read {} j).map ({ c with logging := · })⟩]

/-- The configuration that a value stands for, or what is wrong with it. -/
def read (j : Json) : Except String Config := shape.read {} j

end Config

/-! ### Writing -/

/-- The section with all its members. -/
def ServerSection.toJson (s : ServerSection) : Json :=
  .obj [
    ("body_timeout_ms", .int s.bodyTimeoutMs),
    ("http_addr", .str s.address),
    ("max_body_bytes", .int s.maxBodyBytes),
    ("port", .ofNat? s.port),
    ("request_timeout_ms", .int s.requestTimeoutMs),
    ("shutdown_timeout_secs", .int s.shutdownTimeoutSecs)]

/-- The section with all its members. -/
def ApisSection.toJson (s : ApisSection) : Json :=
  .obj [
    ("artifact_dir", .ofText? s.artifactDir),
    ("builtin", .bool s.builtin),
    ("force", .bool s.force),
    ("ignore", .ofTexts s.ignored),
    ("path", .str s.path)]

/-- The section with all its members. -/
def CodecSection.toJson (s : CodecSection) : Json :=
  .obj [
    ("timestamp_format", .str s.timestampFormat),
    ("unknown_fields", .str s.unknownFields.name)]

/-- The section with all its members. -/
def ReportingSection.toJson (s : ReportingSection) : Json :=
  .obj [
    ("enabled", .bool s.enabled),
    ("service_name", .ofText? s.serviceName),
    ("slow_call_ms", .int s.slowCallMs)]

/-- The section with all its members. -/
def LoggingSection.toJson (s : LoggingSection) : Json :=
  .obj [("format", .str s.format.name), ("level", .str s.level)]

namespace Config

/-- A configuration with all its members. -/
def toJson (c : Config) : Json :=
  .obj [
    ("apis", c.apis.toJson),
    ("codec", c.codec.toJson),
    ("logging", c.logging.toJson),
    ("reporting", c.reporting.toJson),
    ("server", c.server.toJson)]

/-! ### Presets and what follows from a configuration -/

/-- The preset for development: readable logs of all that happens, and a lenient codec. -/
def development : Config where
  codec := { unknownFields := .tolerate }
  logging := { level := "debug", format := .pretty }

/-- The preset for production is the default. -/
def production : Config := {}

/-- The time in milliseconds after which a call is reported as slow, if such calls are
reported. -/
def slowCall (c : Config) : Option Nat :=
  if c.reporting.enabled && 0 < c.reporting.slowCallMs then some c.reporting.slowCallMs
  else none

/-- How models are read and written. -/
def codecOptions (c : Config) : Codec :=
  { unknownFields := c.codec.unknownFields,
    writeTimestamp := TimePattern.format ((TimePattern.read? c.codec.timestampFormat).getD []) }

/-- Whether log records say where in the program they come from. -/
def logsPlace (c : Config) : Bool := c.logging.format = .pretty

end Config

end ApiContract
