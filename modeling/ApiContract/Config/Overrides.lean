import ApiContract.Config.Error
import ApiContract.Config.Schema
import ApiContract.Config.Variables
import ApiContract.Decimal.Read

/-!
# Overrides from variables

A variable whose name is a common start, a section and a member, each after two underscores,
sets that member:

    PTOLEMY__SERVER__PORT=9000

## Main definitions

* `Config.setter?` — how a member is set from text
* `Config.override` — a configuration with the overrides of variables
-/

namespace ApiContract.Config

/-- A change of a configuration by a text, or what the text should have been. -/
abbrev Setter := Config → String → Except String Config

/-- A natural number of so many bits, with blanks around it. -/
def natural (bits : Nat) (raw : String) : Except String Nat :=
  (Decimal.readNatBelow? (Decimal.bound bits) (Text.trim raw)).elim (.error "expected integer") .ok

/-- A truth value, in letters of either case. -/
def truth (raw : String) : Except String Bool :=
  let word := Text.lowerAscii raw
  if ["true", "1", "yes", "on"].contains word then .ok true
  else if ["false", "0", "no", "off"].contains word then .ok false
  else .error "expected boolean"

/-- A text that counts as none when it is empty. -/
def nonEmpty? (raw : String) : Option String :=
  if raw.isEmpty then none else some raw

/-- The names in a text, with commas between them and blanks around each. -/
def namesIn (raw : String) : List String :=
  ((Text.split raw ',').map Text.trim).filter (· ≠ "")

/-- What is done with unknown fields, in letters of either case. -/
def unknownFields (raw : String) : Except String UnknownFields :=
  (UnknownFields.ofName? (Text.lowerAscii raw)).elim
    (.error "expected 'reject' or 'tolerate'") .ok

/-- A log format. -/
def logFormat (raw : String) : Except String LogFormat :=
  (LogFormat.read raw).mapError fun _ => "expected 'json' or 'pretty'"

/-- How the server section is set. -/
def serverSetter? (member : String) : Option Setter :=
  let set (change : ServerSection → String → Except String ServerSection) : Option Setter :=
    some fun c raw => (change c.server raw).map ({ c with server := · })
  match member with
  | "HTTP_ADDR" => set fun s raw => .ok { s with address := raw }
  | "PORT" => set fun s raw => (natural 16 raw).map fun n => { s with port := some n }
  | "REQUEST_TIMEOUT_MS" =>
    set fun s raw => (natural 64 raw).map ({ s with requestTimeoutMs := · })
  | "BODY_TIMEOUT_MS" => set fun s raw => (natural 64 raw).map ({ s with bodyTimeoutMs := · })
  | "SHUTDOWN_TIMEOUT_SECS" =>
    set fun s raw => (natural 64 raw).map ({ s with shutdownTimeoutSecs := · })
  | "MAX_BODY_BYTES" => set fun s raw => (natural 64 raw).map ({ s with maxBodyBytes := · })
  | _ => none

/-- How the section on API documents is set. -/
def apisSetter? (member : String) : Option Setter :=
  let set (change : ApisSection → String → Except String ApisSection) : Option Setter :=
    some fun c raw => (change c.apis raw).map ({ c with apis := · })
  match member with
  | "PATH" => set fun s raw => .ok { s with path := raw }
  | "IGNORE" => set fun s raw => .ok { s with ignored := namesIn raw }
  | "BUILTIN" => set fun s raw => (truth raw).map ({ s with builtin := · })
  | "ARTIFACT_DIR" => set fun s raw => .ok { s with artifactDir := nonEmpty? raw }
  | "FORCE" => set fun s raw => (truth raw).map ({ s with force := · })
  | _ => none

/-- How the codec section is set. -/
def codecSetter? (member : String) : Option Setter :=
  let set (change : CodecSection → String → Except String CodecSection) : Option Setter :=
    some fun c raw => (change c.codec raw).map ({ c with codec := · })
  match member with
  | "UNKNOWN_FIELDS" => set fun s raw => (unknownFields raw).map ({ s with unknownFields := · })
  | "TIMESTAMP_FORMAT" => set fun s raw => .ok { s with timestampFormat := raw }
  | _ => none

/-- How the reporting section is set. -/
def reportingSetter? (member : String) : Option Setter :=
  let set (change : ReportingSection → String → Except String ReportingSection) :
      Option Setter :=
    some fun c raw => (change c.reporting raw).map ({ c with reporting := · })
  match member with
  | "ENABLED" => set fun s raw => (truth raw).map ({ s with enabled := · })
  | "SLOW_CALL_MS" => set fun s raw => (natural 64 raw).map ({ s with slowCallMs := · })
  | "SERVICE_NAME" => set fun s raw => .ok { s with serviceName := nonEmpty? raw }
  | _ => none

/-- How the logging section is set. -/
def loggingSetter? (member : String) : Option Setter :=
  let set (change : LoggingSection → String → Except String LoggingSection) : Option Setter :=
    some fun c raw => (change c.logging raw).map ({ c with logging := · })
  match member with
  | "LEVEL" => set fun s raw => .ok { s with level := raw }
  | "FORMAT" => set fun s raw => (logFormat raw).map ({ s with format := · })
  | _ => none

/-- How the member of a section is set, if there is such a member. -/
def setter? : List String → Option Setter
  | ["SERVER", member] => serverSetter? member
  | ["APIS", member] => apisSetter? member
  | ["CODEC", member] => codecSetter? member
  | ["REPORTING", member] => reportingSetter? member
  | ["LOGGING", member] => loggingSetter? member
  | _ => none

/-- The parts of a name between two underscores each. -/
def nameParts : List Char → List (List Char)
  | [] => [[]]
  | '_' :: '_' :: rest => [] :: nameParts rest
  | c :: rest =>
    match nameParts rest with
    | [] => [[c]]
    | part :: more => (c :: part) :: more

/-- A configuration with what one variable sets. A variable whose name does not start in the
common way sets nothing. -/
def overrideOne (start : String) (c : Config) (var : String × String) :
    Except ConfigError Config :=
  match Text.stripStart? (start ++ "__") var.1 with
  | none => .ok c
  | some path =>
    match setter? ((nameParts path.toList).map String.ofList) with
    | none => .error (.invalidVariable var.1 "unknown configuration key")
    | some set => (set c var.2).mapError (.invalidVariable var.1)

/-- A configuration with what the variables set, in their order. -/
def override (start : String) (vars : Variables) (c : Config) : Except ConfigError Config :=
  vars.foldlM (overrideOne start) c

/-- The sections and their members, as documents name them. -/
def memberNames : List (String × List String) :=
  [("server", ServerSection.shape.members.map (·.name)),
    ("apis", ApisSection.shape.members.map (·.name)),
    ("codec", CodecSection.shape.members.map (·.name)),
    ("reporting", ReportingSection.shape.members.map (·.name)),
    ("logging", LoggingSection.shape.members.map (·.name))]

/-- The names of all variables that can override a member. -/
def overrideNames (start : String) : List String :=
  memberNames.flatMap fun (part, members) =>
    members.map fun m => s!"{start}__{Text.upperAscii part}__{Text.upperAscii m}"

end ApiContract.Config
