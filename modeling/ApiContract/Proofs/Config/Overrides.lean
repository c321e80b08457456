import ApiContract.Config.Overrides
import ApiContract.Proofs.Config.Schema
import ApiContract.Proofs.Fallible
import ApiContract.Proofs.Text.Split

/-!
# Variables in any order

Every setting has a variable of its own, which gives it a value and leaves the others as they
are. Whether a variable is refused depends on its name and its text alone. Variables with
different names therefore make the same configuration in whatever order they come, and they are
refused in every order or in none.

## Main definitions

* `Config.Overridable`, `Config.overridables` — the settings and how they are read from texts
* `Config.Member` — a member of a section, in a table of what variables set
* `Config.Refused` — a variable that makes no configuration
* `Config.Overridden` — a configuration is another with the overrides of variables

## Main results

* `Config.Member.exists_of_table` — what is set by looking members up in a table
* `Config.exists_setter`, `Config.exists_overridable` — which members of sections are set, and how
* `Config.overrideOne_cases` — one variable, whatever the configuration
* `Config.exists_overridden`, `Config.exists_override_error` — variables one after another
* `Config.override_orders` — variables in any order
-/

namespace ApiContract.Config

/-! ### Settings and their variables -/

/-- A setting that a variable overrides: its section and its key, and the value that a text
stands for. -/
structure Overridable where
  group : String
  key : String
  read : String → Except String Json

namespace Overridable

/-- The settings of the server. -/
def server : List Overridable := [
  ⟨"server", "http_addr", fun raw => .ok (.str raw)⟩,
  ⟨"server", "port", fun raw => (natural 16 raw).map fun n => .ofNat? (some n)⟩,
  ⟨"server", "request_timeout_ms", fun raw => (natural 64 raw).map fun n : Nat => .int n⟩,
  ⟨"server", "body_timeout_ms", fun raw => (natural 64 raw).map fun n : Nat => .int n⟩,
  ⟨"server", "shutdown_timeout_secs", fun raw => (natural 64 raw).map fun n : Nat => .int n⟩,
  ⟨"server", "max_body_bytes", fun raw => (natural 64 raw).map fun n : Nat => .int n⟩]

/-- The settings for API documents. -/
def apis : List Overridable := [
  ⟨"apis", "path", fun raw => .ok (.str raw)⟩,
  ⟨"apis", "ignore", fun raw => .ok (.ofTexts (namesIn raw))⟩,
  ⟨"apis", "builtin", fun raw => (truth raw).map .bool⟩,
  ⟨"apis", "artifact_dir", fun raw => .ok (.ofText? (nonEmpty? raw))⟩,
  ⟨"apis", "force", fun raw => (truth raw).map .bool⟩]

/-- The settings of the codec. -/
def codec : List Overridable := [
  ⟨"codec", "unknown_fields", fun raw => (Config.unknownFields raw).map fun u => .str u.name⟩,
  ⟨"codec", "timestamp_format", fun raw => .ok (.str raw)⟩]

/-- The settings for reports. -/
def reporting : List Overridable := [
  ⟨"reporting", "enabled", fun raw => (truth raw).map .bool⟩,
  ⟨"reporting", "slow_call_ms", fun raw => (natural 64 raw).map fun n : Nat => .int n⟩,
  ⟨"reporting", "service_name", fun raw => .ok (.ofText? (nonEmpty? raw))⟩]

/-- The settings for logs. -/
def logging : List Overridable := [
  ⟨"logging", "level", fun raw => .ok (.str raw)⟩,
  ⟨"logging", "format", fun raw => (logFormat raw).map fun f => .str f.name⟩]

/-- The section and the key in capitals, as they stand in the name of the variable. -/
def parts (o : Overridable) : List String := [Text.upperAscii o.group, Text.upperAscii o.key]

/-- The name of the variable. -/
def variableName (start : String) (o : Overridable) : String :=
  start ++ "__" ++ Text.join "__" o.parts

/-- A setter sets exactly this setting, to the value that the text stands for, or refuses the
text. -/
structure IsSetBy (o : Overridable) (set : Setter) : Prop where
  refused (c : Config) {raw message : String} : o.read raw = .error message →
    set c raw = .error message
  accepted (c : Config) {raw : String} {value : Json} : o.read raw = .ok value →
    ∃ d, set c raw = .ok d ∧ ∀ group key, d.setting group key =
      if o.group = group ∧ o.key = key then some value else c.setting group key

end Overridable

/-- The settings of a configuration. -/
def overridables : List Overridable :=
  Overridable.server ++ Overridable.apis ++ Overridable.codec ++ Overridable.reporting ++
    Overridable.logging

/-! ### What is set -/

/-- A setting is looked up in its section. -/
theorem setting_by_section (c : Config) (group key : String) : c.setting group key =
    if "apis" = group then c.apis.toJson.member? key
    else if "codec" = group then c.codec.toJson.member? key
    else if "logging" = group then c.logging.toJson.member? key
    else if "reporting" = group then c.reporting.toJson.member? key
    else if "server" = group then c.server.toJson.member? key else none := by
  rw [setting, Json.setting?, toJson, Json.member?_obj]
  grind [Members.lookup_cons, Members.lookup_nil]

/-- A section of the configuration, which is changed on its own. -/
structure Slot (β : Type) where
  group : String
  get : Config → β
  put : Config → β → Config
  write : β → Json
  setting_get : ∀ c key, c.setting group key = (write (get c)).member? key
  setting_put : ∀ c b other key, (put c b).setting other key =
    if group = other then (write b).member? key else c.setting other key

/-- A member of a section that variables set: its key, as it stands in documents and in
variables, how texts are read and what has been read is written, and the change that it makes. -/
structure Member {β : Type} (slot : Slot β) where
  key : String
  capital : String
  Held : Type
  read : String → Except String Held
  write : Held → Json
  change : β → Held → β
  changes : ∀ b a other, (slot.write (change b a)).member? other =
    if key = other then some (write a) else (slot.write b).member? other

namespace Member

variable {β : Type} {slot : Slot β}

/-- The setting that a member is. -/
def overridable (m : Member slot) : Overridable :=
  ⟨slot.group, m.key, fun raw => (m.read raw).map m.write⟩

/-- How a member is set. -/
def setter (m : Member slot) : Setter :=
  fun c raw => ((m.read raw).map (m.change (slot.get c))).map (slot.put c)

/-- A member of a section is set to what has been read. -/
theorem isSetBy (m : Member slot) : m.overridable.IsSetBy m.setter := by
  constructor
  · intro c raw message refused
    rw [overridable, map_eq_error] at refused
    rw [setter, refused]
    rfl
  · intro c raw value accepted
    obtain ⟨a, given, rfl⟩ := map_eq_ok.mp accepted
    refine ⟨slot.put c (m.change (slot.get c) a), ?_, fun group other => ?_⟩
    · rw [setter, given]
      rfl
    · rw [slot.setting_put, m.changes]
      by_cases here : slot.group = group
      · subst here
        simp only [overridable, if_true, true_and, slot.setting_get]
      · rw [if_neg here, if_neg fun both => here both.1]

/-- Where the members of a section are looked up in a table, whatever is set by a name is the
setting of an entry. -/
theorem exists_of_table {table : List (Member slot)} {settings : List Overridable}
    {sets : String → Option Setter} (same : settings = table.map overridable)
    (known : ∀ name, sets name = (table.find? fun m => m.capital = name).map setter)
    (among : ∀ o ∈ settings, o ∈ overridables)
    (named : ∀ m ∈ table, Text.upperAscii m.key = m.capital)
    {name : String} {set : Setter} (found : sets name = some set) :
    ∃ o ∈ overridables, o.parts = [Text.upperAscii slot.group, name] ∧ o.IsSetBy set := by
  rw [known, Option.map_eq_some_iff] at found
  obtain ⟨m, here, rfl⟩ := found
  have listed := List.mem_of_find?_eq_some here
  have capital : m.capital = name := by simpa using List.find?_some here
  refine ⟨m.overridable, among _ ?_, ?_, m.isSetBy⟩
  · rw [same]
    exact List.mem_map_of_mem listed
  · rw [← capital, ← named m listed]
    rfl

end Member

/-- The section of the server. -/
def serverSlot : Slot ServerSection where
  group := "server"
  get := server
  put c s := { c with server := s }
  write := ServerSection.toJson
  setting_get _ _ := rfl
  setting_put c s other key := by
    rw [setting_by_section, setting_by_section]
    grind

theorem member?_server (s : ServerSection) (key : String) : (serverSlot.write s).member? key =
    if "body_timeout_ms" = key then some (.int s.bodyTimeoutMs)
    else if "http_addr" = key then some (.str s.address)
    else if "max_body_bytes" = key then some (.int s.maxBodyBytes)
    else if "port" = key then some (.ofNat? s.port)
    else if "request_timeout_ms" = key then some (.int s.requestTimeoutMs)
    else if "shutdown_timeout_secs" = key then some (.int s.shutdownTimeoutSecs)
    else none :=
  rfl

/-- What variables set in the section of the server. -/
def serverMembers : List (Member serverSlot) := [
  { key := "http_addr", capital := "HTTP_ADDR"
    Held := String
    read := .ok
    write := .str
    change := fun s a => { s with address := a }
    changes := by grind [member?_server] },
  { key := "port", capital := "PORT"
    Held := Nat
    read := natural 16
    write := fun n => .ofNat? (some n)
    change := fun s a => { s with port := some a }
    changes := by grind [member?_server] },
  { key := "request_timeout_ms", capital := "REQUEST_TIMEOUT_MS"
    Held := Nat
    read := natural 64
    write := fun n : Nat => .int n
    change := fun s a => { s with requestTimeoutMs := a }
    changes := by grind [member?_server] },
  { key := "body_timeout_ms", capital := "BODY_TIMEOUT_MS"
    Held := Nat
    read := natural 64
    write := fun n : Nat => .int n
    change := fun s a => { s with bodyTimeoutMs := a }
    changes := by grind [member?_server] },
  { key := "shutdown_timeout_secs", capital := "SHUTDOWN_TIMEOUT_SECS"
    Held := Nat
    read := natural 64
    write := fun n : Nat => .int n
    change := fun s a => { s with shutdownTimeoutSecs := a }
    changes := by grind [member?_server] },
  { key := "max_body_bytes", capital := "MAX_BODY_BYTES"
    Held := Nat
    read := natural 64
    write := fun n : Nat => .int n
    change := fun s a => { s with maxBodyBytes := a }
    changes := by grind [member?_server] }]

theorem server_eq_map : Overridable.server = serverMembers.map Member.overridable := by
  simp [Overridable.server, serverMembers, serverSlot, Member.overridable, Except.map]

theorem serverSetter?_eq (name : String) : serverSetter? name =
    (serverMembers.find? fun m => m.capital = name).map Member.setter := by
  unfold serverSetter?
  split
  case h_7 => simp_all [serverMembers, eq_comm]
  all_goals simp [serverMembers, serverSlot, Member.setter, funext_iff, Except.map]

/-- The section on API documents. -/
def apisSlot : Slot ApisSection where
  group := "apis"
  get := apis
  put c s := { c with apis := s }
  write := ApisSection.toJson
  setting_get _ _ := rfl
  setting_put c s other key := by
    rw [setting_by_section, setting_by_section]
    grind

theorem member?_apis (s : ApisSection) (key : String) : (apisSlot.write s).member? key =
    if "artifact_dir" = key then some (.ofText? s.artifactDir)
    else if "builtin" = key then some (.bool s.builtin)
    else if "force" = key then some (.bool s.force)
    else if "ignore" = key then some (.ofTexts s.ignored)
    else if "path" = key then some (.str s.path)
    else none :=
  rfl

/-- What variables set in the section on API documents. -/
def apisMembers : List (Member apisSlot) := [
  { key := "path", capital := "PATH"
    Held := String
    read := .ok
    write := .str
    change := fun s a => { s with path := a }
    changes := by grind [member?_apis] },
  { key := "ignore", capital := "IGNORE"
    Held := List String
    read := fun raw => .ok (namesIn raw)
    write := .ofTexts
    change := fun s a => { s with ignored := a }
    changes := by grind [member?_apis] },
  { key := "builtin", capital := "BUILTIN"
    Held := Bool
    read := truth
    write := .bool
    change := fun s a => { s with builtin := a }
    changes := by grind [member?_apis] },
  { key := "artifact_dir", capital := "ARTIFACT_DIR"
    Held := Option String
    read := fun raw => .ok (nonEmpty? raw)
    write := .ofText?
    change := fun s a => { s with artifactDir := a }
    changes := by grind [member?_apis] },
  { key := "force", capital := "FORCE"
    Held := Bool
    read := truth
    write := .bool
    change := fun s a => { s with force := a }
    changes := by grind [member?_apis] }]

theorem apis_eq_map : Overridable.apis = apisMembers.map Member.overridable := by
  simp [Overridable.apis, apisMembers, apisSlot, Member.overridable, Except.map]

theorem apisSetter?_eq (name : String) : apisSetter? name =
    (apisMembers.find? fun m => m.capital = name).map Member.setter := by
  unfold apisSetter?
  split
  case h_6 => simp_all [apisMembers, eq_comm]
  all_goals simp [apisMembers, apisSlot, Member.setter, funext_iff, Except.map]

/-- The section of the codec. -/
def codecSlot : Slot CodecSection where
  group := "codec"
  get := codec
  put c s := { c with codec := s }
  write := CodecSection.toJson
  setting_get _ _ := rfl
  setting_put c s other key := by
    rw [setting_by_section, setting_by_section]
    grind

theorem member?_codec (s : CodecSection) (key : String) : (codecSlot.write s).member? key =
    if "timestamp_format" = key then some (.str s.timestampFormat)
    else if "unknown_fields" = key then some (.str s.unknownFields.name)
    else none :=
  rfl

/-- What variables set in the section of the codec. -/
def codecMembers : List (Member codecSlot) := [
  { key := "unknown_fields", capital := "UNKNOWN_FIELDS"
    Held := UnknownFields
    read := Config.unknownFields
    write := fun u => .str u.name
    change := fun s a => { s with unknownFields := a }
    changes := by grind [member?_codec] },
  { key := "timestamp_format", capital := "TIMESTAMP_FORMAT"
    Held := String
    read := .ok
    write := .str
    change := fun s a => { s with timestampFormat := a }
    changes := by grind [member?_codec] }]

theorem codec_eq_map : Overridable.codec = codecMembers.map Member.overridable := by
  simp [Overridable.codec, codecMembers, codecSlot, Member.overridable, Except.map]

theorem codecSetter?_eq (name : String) : codecSetter? name =
    (codecMembers.find? fun m => m.capital = name).map Member.setter := by
  unfold codecSetter?
  split
  case h_3 => simp_all [codecMembers, eq_comm]
  all_goals simp [codecMembers, codecSlot, Member.setter, funext_iff, Except.map]

/-- The section on reports. -/
def reportingSlot : Slot ReportingSection where
  group := "reporting"
  get := reporting
  put c s := { c with reporting := s }
  write := ReportingSection.toJson
  setting_get _ _ := rfl
  setting_put c s other key := by
    rw [setting_by_section, setting_by_section]
    grind

theorem member?_reporting (s : ReportingSection) (key : String) :
    (reportingSlot.write s).member? key =
    if "enabled" = key then some (.bool s.enabled)
    else if "service_name" = key then some (.ofText? s.serviceName)
    else if "slow_call_ms" = key then some (.int s.slowCallMs)
    else none :=
  rfl

/-- What variables set in the section on reports. -/
def reportingMembers : List (Member reportingSlot) := [
  { key := "enabled", capital := "ENABLED"
    Held := Bool
    read := truth
    write := .bool
    change := fun s a => { s with enabled := a }
    changes := by grind [member?_reporting] },
  { key := "slow_call_ms", capital := "SLOW_CALL_MS"
    Held := Nat
    read := natural 64
    write := fun n : Nat => .int n
    change := fun s a => { s with slowCallMs := a }
    changes := by grind [member?_reporting] },
  { key := "service_name", capital := "SERVICE_NAME"
    Held := Option String
    read := fun raw => .ok (nonEmpty? raw)
    write := .ofText?
    change := fun s a => { s with serviceName := a }
    changes := by grind [member?_reporting] }]

theorem reporting_eq_map : Overridable.reporting = reportingMembers.map Member.overridable := by
  simp [Overridable.reporting, reportingMembers, reportingSlot, Member.overridable, Except.map]

theorem reportingSetter?_eq (name : String) : reportingSetter? name =
    (reportingMembers.find? fun m => m.capital = name).map Member.setter := by
  unfold reportingSetter?
  split
  case h_4 => simp_all [reportingMembers, eq_comm]
  all_goals simp [reportingMembers, reportingSlot, Member.setter, funext_iff, Except.map]

/-- The section on logs. -/
def loggingSlot : Slot LoggingSection where
  group := "logging"
  get := logging
  put c s := { c with logging := s }
  write := LoggingSection.toJson
  setting_get _ _ := rfl
  setting_put c s other key := by
    rw [setting_by_section, setting_by_section]
    grind

theorem member?_logging (s : LoggingSection) (key : String) : (loggingSlot.write s).member? key =
    if "format" = key then some (.str s.format.name)
    else if "level" = key then some (.str s.level)
    else none :=
  rfl

/-- What variables set in the section on logs. -/
def loggingMembers : List (Member loggingSlot) := [
  { key := "level", capital := "LEVEL"
    Held := String
    read := .ok
    write := .str
    change := fun s a => { s with level := a }
    changes := by grind [member?_logging] },
  { key := "format", capital := "FORMAT"
    Held := LogFormat
    read := logFormat
    write := fun f => .str f.name
    change := fun s a => { s with format := a }
    changes := by grind [member?_logging] }]

theorem logging_eq_map : Overridable.logging = loggingMembers.map Member.overridable := by
  simp [Overridable.logging, loggingMembers, loggingSlot, Member.overridable, Except.map]

theorem loggingSetter?_eq (name : String) : loggingSetter? name =
    (loggingMembers.find? fun m => m.capital = name).map Member.setter := by
  unfold loggingSetter?
  split
  case h_3 => simp_all [loggingMembers, eq_comm]
  all_goals simp [loggingMembers, loggingSlot, Member.setter, funext_iff, Except.map]

/-! ### Names of variables -/

/-- Whatever is set by a name is a setting. -/
theorem exists_overridable {parts : List String} {set : Setter} (found : setter? parts = some set) :
    ∃ o ∈ overridables, o.parts = parts ∧ o.IsSetBy set := by
  unfold setter? at found
  split at found
  · exact Member.exists_of_table server_eq_map serverSetter?_eq
      (by simp +contextual [overridables])
      (by decide +kernel) found
  · exact Member.exists_of_table apis_eq_map apisSetter?_eq
      (by simp +contextual [overridables])
      (by decide +kernel) found
  · exact Member.exists_of_table codec_eq_map codecSetter?_eq
      (by simp +contextual [overridables])
      (by decide +kernel) found
  · exact Member.exists_of_table reporting_eq_map reportingSetter?_eq
      (by simp +contextual [overridables])
      (by decide +kernel) found
  · exact Member.exists_of_table logging_eq_map loggingSetter?_eq
      (by simp +contextual [overridables])
      (by decide +kernel) found
  · cases found

/-- Different settings have different variables. -/
theorem eq_of_parts {o o' : Overridable} (here : o ∈ overridables) (there : o' ∈ overridables)
    (same : o.parts = o'.parts) : o = o' := by
  have distinct : (overridables.map Overridable.parts).Nodup := by decide +kernel
  exact List.inj_on_of_nodup_map distinct here there same

theorem eq_of_place {o o' : Overridable} (here : o ∈ overridables) (there : o' ∈ overridables)
    (group : o.group = o'.group) (key : o.key = o'.key) : o = o' :=
  eq_of_parts here there (by rw [Overridable.parts, group, key]; rfl)

theorem exists_setter {o : Overridable} (listed : o ∈ overridables) :
    ∃ set, setter? o.parts = some set ∧ o.IsSetBy set := by
  have all : ∀ o ∈ overridables, (setter? o.parts).isSome := by decide +kernel
  obtain ⟨set, found⟩ := Option.isSome_iff_exists.mp (all o listed)
  obtain ⟨other, there, same, sets⟩ := exists_overridable found
  rw [eq_of_parts there listed same] at sets
  exact ⟨set, found, sets⟩

theorem nameParts_ne_nil (cs : List Char) : nameParts cs ≠ [] := by
  fun_induction nameParts cs <;> simp

/-- The parts of a name with two underscores between them are the name. -/
theorem intercalate_nameParts (cs : List Char) : ['_', '_'].intercalate (nameParts cs) = cs := by
  fun_induction nameParts cs with
  | case1 => rfl
  | case2 rest ih =>
    obtain ⟨first, more, cut⟩ := List.exists_cons_of_ne_nil (nameParts_ne_nil rest)
    rw [cut] at ih ⊢
    simp [List.intercalate_cons_cons, ih]
  | case3 c rest _ cut ih => exact absurd cut (nameParts_ne_nil rest)
  | case4 c rest _ part more cut ih =>
    rw [cut] at ih
    cases more with
    | nil => simpa using ih
    | cons second others =>
      rw [List.intercalate_cons_cons] at ih ⊢
      simp [← ih]

theorem map_nameParts_eq_iff {o : Overridable} (listed : o ∈ overridables) {path : String} :
    (nameParts path.toList).map String.ofList = o.parts ↔ path = Text.join "__" o.parts := by
  constructor
  · intro same
    apply String.toList_injective
    rw [← same, Text.join, String.toList_intercalate]
    simp [Function.comp_def, intercalate_nameParts]
  · rintro rfl
    have all : ∀ o ∈ overridables,
        (nameParts (Text.join "__" o.parts).toList).map String.ofList = o.parts := by
      decide +kernel
    exact all o listed

theorem eq_of_variableName {start : String} {o o' : Overridable} (here : o ∈ overridables)
    (there : o' ∈ overridables) (same : o.variableName start = o'.variableName start) : o = o' := by
  have path : Text.join "__" o.parts = Text.join "__" o'.parts :=
    (String.append_right_inj _).mp same
  have parts := (map_nameParts_eq_iff here).mpr path.symm
  exact eq_of_parts here there (parts.symm.trans ((map_nameParts_eq_iff there).mpr rfl))

/-! ### One variable -/

variable {c d d' : Config} {start : String} {vars others : Variables} {var : String × String}

/-- A variable that makes no configuration: its name begins in the common way, and goes on
otherwise than that of every setting, or its text is not read. -/
def Refused (start : String) (var : String × String) : Prop :=
  ∃ path, var.1 = start ++ "__" ++ path ∧
    ∀ o ∈ overridables, path = Text.join "__" o.parts → ∃ message, o.read var.2 = .error message

/-- A variable is refused, or it is of no setting and changes nothing, or it is that of a setting
and changes it alone; which of these it is does not depend on the configuration. -/
theorem overrideOne_cases (start : String) (var : String × String) :
    (Refused start var ∧ ∀ c, ∃ e, overrideOne start c var = .error e) ∨
      ¬Refused start var ∧ (∀ c, overrideOne start c var = .ok c) ∧
        (∀ o ∈ overridables, o.variableName start ≠ var.1) ∨
      ¬Refused start var ∧ ∃ o ∈ overridables, o.variableName start = var.1 ∧
        ∃ value, o.read var.2 = .ok value ∧ ∀ c, ∃ d, overrideOne start c var = .ok d ∧
          ∀ group key, d.setting group key =
            if o.group = group ∧ o.key = key then some value else c.setting group key := by
  cases cut : Text.stripStart? (start ++ "__") var.1 with
  | none =>
    have other : ∀ path, var.1 ≠ start ++ "__" ++ path := fun path same => by
      rw [Text.stripStart?_eq_some_iff.mpr same] at cut
      cases cut
    refine .inr (.inl ⟨fun ⟨path, same, _⟩ => other path same, fun c => ?_,
      fun o _ same => other _ same.symm⟩)
    rw [overrideOne, cut]
  | some path =>
    have name := Text.stripStart?_eq_some_iff.mp cut
    have unique : ∀ {path'}, var.1 = start ++ "__" ++ path' → path' = path := fun same => by
      rw [Text.stripStart?_eq_some_iff.mpr same] at cut
      exact Option.some.inj cut
    cases found : setter? ((nameParts path.toList).map String.ofList) with
    | none =>
      refine .inl ⟨⟨path, name, fun o listed same => ?_⟩, fun c =>
        ⟨.invalidVariable var.1 "unknown configuration key", ?_⟩⟩
      · obtain ⟨set, known, _⟩ := exists_setter listed
        rw [(map_nameParts_eq_iff listed).mpr same, known] at found
        cases found
      · rw [overrideOne, cut]
        dsimp only
        rw [found]
    | some set =>
      obtain ⟨o, listed, same, sets⟩ := exists_overridable found
      have own := (map_nameParts_eq_iff listed).mp same.symm
      have step : ∀ c, overrideOne start c var =
          (set c var.2).mapError (.invalidVariable var.1) := fun c => by
        rw [overrideOne, cut]
        dsimp only
        rw [found]
      cases read : o.read var.2 with
      | error message =>
        refine .inl ⟨⟨path, name, fun o' there same' => ⟨message, ?_⟩⟩, fun c => ?_⟩
        · rw [← eq_of_parts listed there, read]
          exact same.trans ((map_nameParts_eq_iff there).mpr same')
        · exact ⟨_, by rw [step, sets.refused c read]; rfl⟩
      | ok value =>
        refine .inr (.inr ⟨?_, o, listed, by rw [name, own]; rfl, value, read, fun c => ?_⟩)
        · rintro ⟨path', same', refused⟩
          obtain ⟨message, error⟩ := refused o listed ((unique same').trans own)
          rw [read] at error
          cases error
        · obtain ⟨d, done, settings⟩ := sets.accepted c read
          exact ⟨d, by rw [step, done]; rfl, settings⟩

/-! ### Many variables -/

/-- A configuration is another with the overrides of variables: the settings that have variables
have the values that these give, and the others are as they were. -/
structure Overridden (start : String) (vars : Variables) (c d : Config) : Prop where
  given : ∀ o ∈ overridables, ∀ raw, (o.variableName start, raw) ∈ vars →
    ∃ value, o.read raw = .ok value ∧ d.setting o.group o.key = some value
  kept : ∀ group key, (∀ o ∈ overridables, o.group = group → o.key = key →
    o.variableName start ∉ Members.keys vars) → d.setting group key = c.setting group key

/-- The order of the variables does not matter for what they make of a configuration. -/
theorem Overridden.perm (overridden : Overridden start vars c d) (perm : others.Perm vars) :
    Overridden start others c d where
  given o listed raw member := overridden.given o listed raw (perm.mem_iff.mp member)
  kept group key none := overridden.kept group key fun o listed here there among =>
    none o listed here there ((perm.map Prod.fst).mem_iff.mpr among)

/-- Variables make one configuration of another. -/
theorem Overridden.unique (left : Overridden start vars c d) (right : Overridden start vars c d') :
    d = d' := by
  refine ext_setting fun group key => ?_
  by_cases set : ∃ o ∈ overridables, o.group = group ∧ o.key = key ∧
      o.variableName start ∈ Members.keys vars
  · obtain ⟨o, listed, rfl, rfl, among⟩ := set
    obtain ⟨⟨_, raw⟩, member, rfl⟩ := List.mem_map.mp among
    obtain ⟨value, read, here⟩ := left.given o listed raw member
    obtain ⟨other, again, there⟩ := right.given o listed raw member
    rw [here, there]
    exact congrArg some (Except.ok.inj (read.symm.trans again))
  · have none : ∀ o ∈ overridables, o.group = group → o.key = key →
        o.variableName start ∉ Members.keys vars :=
      fun o listed here there among => set ⟨o, listed, here, there, among⟩
    rw [left.kept group key none, right.kept group key none]

/-- One more variable before others, of another name. -/
theorem Overridden.cons {o : Overridable} {value : Json} {middle : Config}
    (listed : o ∈ overridables) (named : o.variableName start = var.1)
    (read : o.read var.2 = .ok value)
    (settings : ∀ group key, middle.setting group key =
      if o.group = group ∧ o.key = key then some value else c.setting group key)
    (fresh : var.1 ∉ Members.keys vars) (later : Overridden start vars middle d) :
    Overridden start (var :: vars) c d where
  given other there raw member := by
    rcases List.mem_cons.mp member with same | among
    · -- The settings of one variable are one setting, which no later variable sets.
      obtain rfl : o = other :=
        eq_of_variableName listed there (named.trans (congrArg Prod.fst same).symm)
      obtain rfl : var.2 = raw := (congrArg Prod.snd same).symm
      refine ⟨value, read, ?_⟩
      rw [later.kept, settings, if_pos ⟨rfl, rfl⟩]
      intro other' there' group key
      rw [← eq_of_place listed there' group.symm key.symm, named]
      exact fresh
    · exact later.given other there raw among
  kept group key none := by
    rw [later.kept group key fun other there here there' among =>
      none other there here there' (List.mem_cons_of_mem _ among), settings, if_neg]
    rintro ⟨here, there⟩
    refine none o listed here there ?_
    rw [named]
    exact List.mem_cons_self

/-- A variable of no setting before others. -/
theorem Overridden.cons_idle (idle : ∀ o ∈ overridables, o.variableName start ≠ var.1)
    (later : Overridden start vars c d) : Overridden start (var :: vars) c d where
  given o listed raw member := by
    rcases List.mem_cons.mp member with same | among
    · exact absurd (congrArg Prod.fst same) (idle o listed)
    · exact later.given o listed raw among
  kept group key none := later.kept group key fun o listed here there among =>
    none o listed here there (List.mem_cons_of_mem _ among)

/-- Variables of different names, none of which is refused, override their settings. -/
theorem exists_overridden (distinct : (Members.keys vars).Nodup)
    (accepted : ∀ var ∈ vars, ¬Refused start var) (c : Config) :
    ∃ d, c.override start vars = .ok d ∧ Overridden start vars c d := by
  -- Later variables override what the first one makes of the configuration.
  induction vars generalizing c with
  | nil => exact ⟨c, rfl, ⟨fun _ _ _ member => (nomatch member), fun _ _ _ => rfl⟩⟩
  | cons var rest ih =>
    obtain ⟨fresh, distinct⟩ := List.nodup_cons.mp distinct
    have others : ∀ var ∈ rest, ¬Refused start var := fun other member =>
      accepted other (List.mem_cons_of_mem _ member)
    have here := accepted var List.mem_cons_self
    rcases overrideOne_cases start var with
      ⟨refused, _⟩ | ⟨_, same, idle⟩ | ⟨_, o, listed, named, value, read, sets⟩
    · exact absurd refused here
    · obtain ⟨d, done, overridden⟩ := ih distinct others c
      exact ⟨d, bind_eq_ok.mpr ⟨c, same c, done⟩, overridden.cons_idle idle⟩
    · obtain ⟨middle, step, settings⟩ := sets c
      obtain ⟨d, done, overridden⟩ := ih distinct others middle
      exact ⟨d, bind_eq_ok.mpr ⟨middle, step, done⟩,
        overridden.cons listed named read settings fresh⟩

/-- A variable that is refused makes no configuration, among whatever other variables. -/
theorem exists_override_error (member : var ∈ vars) (refused : Refused start var) (c : Config) :
    ∃ e, c.override start vars = .error e := by
  refine exists_foldlM_error member ?_ c
  rcases overrideOne_cases start var with ⟨_, errors⟩ | ⟨accepted, _⟩ | ⟨accepted, _⟩
  · exact errors
  · exact absurd refused accepted
  · exact absurd refused accepted

/-- Variables of different names are refused in every order, or they make the same configuration
in every order. They are refused exactly when one of them is refused by itself: its name begins in
the common way and goes on otherwise than that of every setting, or its text is not read. In the
configuration that they make, a setting that has a variable has the value that its text is read as,
and every other setting is as it was. -/
theorem override_orders (distinct : (Members.keys vars).Nodup) (start : String) (c : Config) :
    ((∃ var ∈ vars, Refused start var) ∧
        ∀ others, others.Perm vars → ∃ e, c.override start others = .error e) ∨
      (∀ var ∈ vars, ¬Refused start var) ∧
        ∃ d, (∀ others, others.Perm vars → c.override start others = .ok d) ∧
          (∀ o ∈ overridables, ∀ raw, (o.variableName start, raw) ∈ vars →
            ∃ value, o.read raw = .ok value ∧ d.setting o.group o.key = some value) ∧
          ∀ group key, (∀ o ∈ overridables, o.group = group → o.key = key →
            o.variableName start ∉ Members.keys vars) →
              d.setting group key = c.setting group key := by
  by_cases refused : ∃ var ∈ vars, Refused start var
  · refine .inl ⟨refused, fun others perm => ?_⟩
    obtain ⟨var, member, alone⟩ := refused
    exact exists_override_error (perm.mem_iff.mpr member) alone c
  · have accepted : ∀ var ∈ vars, ¬Refused start var := fun var member alone =>
      refused ⟨var, member, alone⟩
    obtain ⟨d, _, overridden⟩ := exists_overridden distinct accepted c
    refine .inr ⟨accepted, d, fun others perm => ?_, overridden.given, overridden.kept⟩
    -- In another order they override the same settings by the same values.
    have distinct' : (Members.keys others).Nodup := (perm.map Prod.fst).nodup_iff.mpr distinct
    obtain ⟨d', done, again⟩ := exists_overridden distinct'
      (fun var member => accepted var (perm.mem_iff.mp member)) c
    rw [done, (again.perm perm.symm).unique overridden]

/-! ### Variables of a deployment -/

/-- The variables of a deployment; one of them is of no setting. -/
def deployment : Variables := [("PTOLEMY__SERVER__PORT", " 9000"),
  ("PTOLEMY__APIS__IGNORE", "legacy, admin,"), ("PTOLEMY_ENV", "staging"),
  ("PTOLEMY__CODEC__UNKNOWN_FIELDS", "Tolerate")]

/-- The variables of the deployment from the last to the first. -/
theorem override_orders_deployment :
    (Members.keys deployment).Nodup ∧ deployment.reverse.Perm deployment ∧
      ∃ d, ({} : Config).override "PTOLEMY" deployment.reverse = .ok d ∧
        d.setting "server" "port" = some (.int 9000) ∧
        d.setting "apis" "ignore" = some (.ofTexts ["legacy", "admin"]) ∧
        d.setting "codec" "unknown_fields" = some (.str "tolerate") ∧
        d.setting "logging" "level" = ({} : Config).setting "logging" "level" := by
  have distinct : (Members.keys deployment).Nodup := by decide
  have perm := deployment.reverse_perm
  have done : (({} : Config).override "PTOLEMY" deployment).toOption.isSome := by decide +kernel
  rcases override_orders distinct "PTOLEMY" {} with ⟨_, errors⟩ | ⟨_, d, ok, given, kept⟩
  · obtain ⟨e, failed⟩ := errors deployment (.refl _)
    rw [failed] at done
    cases done
  · have value (o : Overridable) (listed : o ∈ overridables) (raw : String) (v : Json)
        (member : (o.variableName "PTOLEMY", raw) ∈ deployment) (reads : o.read raw = .ok v) :
        d.setting o.group o.key = some v := by
      obtain ⟨other, read, setting⟩ := given o listed raw member
      rw [setting, Except.ok.inj (read.symm.trans reads)]
    exact ⟨distinct, perm, d, ok _ perm,
      value Overridable.server[1] (by simp [overridables]) " 9000" (.int 9000)
        (by decide +kernel) (by rfl),
      value Overridable.apis[1] (by simp [overridables]) "legacy, admin," _
        (by decide +kernel) (by rfl),
      value Overridable.codec[0] (by simp [overridables]) "Tolerate" (.str "tolerate")
        (by decide +kernel) (by rfl),
      kept "logging" "level" (by decide +kernel)⟩

end ApiContract.Config
