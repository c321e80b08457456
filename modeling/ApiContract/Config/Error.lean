/-!
# Configuration errors

## Main definitions

* `ConfigFormat` — the formats of configuration documents
* `ConfigError` — why there is no configuration
* `ConfigError.message` — its wording
-/

namespace ApiContract

/-- The formats of configuration documents. -/
inductive ConfigFormat where
  | toml
  | json
  | yaml
  deriving DecidableEq, Repr

namespace ConfigFormat

/-- The name of a format in messages. -/
def name : ConfigFormat → String
  | .toml => "TOML"
  | .json => "JSON"
  | .yaml => "YAML"

/-- The format that documents with an extension have. -/
def ofExtension? : String → Option ConfigFormat
  | "toml" => some .toml
  | "json" => some .json
  | "yaml" | "yml" => some .yaml
  | _ => none

end ConfigFormat

/-- Why there is no configuration. -/
inductive ConfigError where
  | notFound (path : String)
  | unreadable (path : String)
  | malformed (format : ConfigFormat)
  | unsupportedFormat (format : String)
  /-- A document fits no configuration. -/
  | misfit (origin reason : String)
  | invalidValue (member reason : String)
  | invalidVariable (name reason : String)
  deriving DecidableEq, Repr

/-- The wording of a configuration error. -/
def ConfigError.message : ConfigError → String
  | .notFound path => s!"configuration file not found: {path}"
  | .unreadable path => s!"failed to read configuration file: {path}"
  | .malformed format => s!"failed to parse {format.name} configuration: *"
  | .unsupportedFormat format => s!"unsupported configuration format: {format}"
  | .misfit origin reason => s!"invalid configuration in {origin}: {reason}"
  | .invalidValue member reason => s!"invalid configuration value for {member}: {reason}"
  | .invalidVariable name reason => s!"failed to parse environment variable {name}: {reason}"

end ApiContract
