import ApiContract.Config.Error
import ApiContract.Config.LogFilter
import ApiContract.Config.Schema
import ApiContract.Http.Address

/-!
# Valid configurations

A configuration that fits its sections may still hold values that the service cannot use.

## Main definitions

* `Config.validate` — the first value that cannot be used
* `Config.port`, `Config.bindAddress` — where the service listens
-/

namespace ApiContract.Config

/-- A condition on a member, and what is said when it does not hold. -/
def require (holds : Bool) (member reason : String) : Except ConfigError Unit :=
  if holds then .ok () else .error (.invalidValue member reason)

/-- The address on which the service listens, if it is one. -/
def address (c : Config) : Except ConfigError SocketAddress :=
  match SocketAddress.read? c.server.address with
  | some a => .ok a
  | none => .error (.invalidValue "server.http_addr"
      s!"invalid socket address: {c.server.address}")

/-- Whether a pattern can be used to write timestamps. -/
def isPattern (pattern : String) : Bool :=
  pattern ≠ "" && (TimePattern.read? pattern).isSome

/-- Whether all values can be used, or the first that cannot. -/
def validate (c : Config) : Except ConfigError Unit := do
  let _ ← c.address
  require (c.server.port ≠ some 0) "server.port" "must not be 0"
  require (0 < c.server.requestTimeoutMs) "server.request_timeout_ms" "must be greater than 0"
  require (0 < c.server.bodyTimeoutMs) "server.body_timeout_ms" "must be greater than 0"
  require (0 < c.server.maxBodyBytes) "server.max_body_bytes" "must be greater than 0"
  require (c.apis.path ≠ "") "apis.path" "must not be empty"
  require (isPattern c.codec.timestampFormat) "codec.timestamp_format"
    s!"invalid strftime pattern: '{c.codec.timestampFormat}'"
  require (LogFilter.accepts c.logging.level) "logging.level"
    (LogFilter.problem c.logging.level)

/-- The port when nothing else names one. -/
def defaultPort : Nat := 8080

/-- The port on which the service listens: the one asked for, else that of the variable
`PORT`, else that of the configuration, else that of the address. A blank variable does not
count. -/
def port (c : Config) (asked : Option Nat) (fromEnvironment : Option String) :
    Except ConfigError Nat :=
  match asked, (fromEnvironment.map Text.trim).filter (· ≠ "") with
  | some p, _ => .ok p
  | none, some raw =>
    match Decimal.readNatBelow? (Decimal.bound 16) raw with
    | some p => .ok p
    | none => .error (.invalidVariable "PORT" "expected a port number")
  | none, none =>
    match c.server.port with
    | some p => .ok p
    | none => .ok ((SocketAddress.read? c.server.address).elim defaultPort (·.port))

/-- The address on which the service listens, with its port. -/
def bindAddress (c : Config) (asked : Option Nat) (fromEnvironment : Option String) :
    Except ConfigError SocketAddress := do
  let a ← c.address
  return { a with port := ← c.port asked fromEnvironment }

end ApiContract.Config
