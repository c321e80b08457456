import ApiContract.Proofs.Config.Merge

/-!
# The settings of a configuration

A configuration is read section by section, and a section setting by setting. What is read of
two documents therefore has the same value for a setting as soon as both name it and give it the
same value, and one document laid over another is read if both are and none of their settings
get mixed.

## Main definitions

* `Config.Section` — how a section is read, and what it is written as
* `Config.setting` — the value of a setting

## Main results

* `Config.exists_read_merge` — when a document laid over another is read
* `Config.setting_eq` — settings that two documents give the same value
* `Config.ext_setting` — a configuration is known by its settings
-/

namespace ApiContract

open Json (RecordShape MemberShape)

attribute [ext] ServerSection ApisSection CodecSection ReportingSection LoggingSection Config

/-! ### Values as they are written -/

theorem Json.ofText?_injective : Function.Injective Json.ofText? := by
  rintro (_ | s) (_ | t) same <;> cases same <;> rfl

theorem Json.ofNat?_injective : Function.Injective Json.ofNat? := by
  rintro (_ | m) (_ | n) same
  · rfl
  · cases same
  · cases same
  · exact congrArg some (Int.ofNat.inj (Json.int.inj same))

theorem Json.ofTexts_injective : Function.Injective Json.ofTexts := fun _ _ same =>
  List.map_injective_iff.mpr (fun _ _ => Json.str.inj) (Json.arr.inj same)

theorem LogFormat.name_injective : Function.Injective LogFormat.name := by
  rintro (_ | _) (_ | _) same <;> first | rfl | simp [name] at same

theorem UnknownFields.name_injective : Function.Injective UnknownFields.name := by
  rintro (_ | _) (_ | _) same <;> first | rfl | simp [name] at same

/-! ### Sections -/

theorem ServerSection.regular : ServerSection.shape.Regular ServerSection.toJson := by
  refine .of_puts fun m listed => ?_
  simp only [shape, List.mem_cons, List.not_mem_nil, or_false] at listed
  rcases listed with rfl | rfl | rfl | rfl | rfl | rfl <;>
  · refine ⟨_, _, _, fun _ _ => rfl, fun a b v => ?_, fun a v key differ => ?_⟩ <;>
    · rw [toJson, toJson, Json.member?_obj, Json.member?_obj]
      grind [Members.lookup_cons]

theorem ApisSection.regular : ApisSection.shape.Regular ApisSection.toJson := by
  refine .of_puts fun m listed => ?_
  simp only [shape, List.mem_cons, List.not_mem_nil, or_false] at listed
  rcases listed with rfl | rfl | rfl | rfl | rfl <;>
  · refine ⟨_, _, _, fun _ _ => rfl, fun a b v => ?_, fun a v key differ => ?_⟩ <;>
    · rw [toJson, toJson, Json.member?_obj, Json.member?_obj]
      grind [Members.lookup_cons]

theorem CodecSection.regular : CodecSection.shape.Regular CodecSection.toJson := by
  refine .of_puts fun m listed => ?_
  simp only [shape, List.mem_cons, List.not_mem_nil, or_false] at listed
  rcases listed with rfl | rfl <;>
  · refine ⟨_, _, _, fun _ _ => rfl, fun a b v => ?_, fun a v key differ => ?_⟩ <;>
    · rw [toJson, toJson, Json.member?_obj, Json.member?_obj]
      grind [Members.lookup_cons]

theorem ReportingSection.regular : ReportingSection.shape.Regular ReportingSection.toJson := by
  refine .of_puts fun m listed => ?_
  simp only [shape, List.mem_cons, List.not_mem_nil, or_false] at listed
  rcases listed with rfl | rfl | rfl <;>
  · refine ⟨_, _, _, fun _ _ => rfl, fun a b v => ?_, fun a v key differ => ?_⟩ <;>
    · rw [toJson, toJson, Json.member?_obj, Json.member?_obj]
      grind [Members.lookup_cons]

theorem LoggingSection.regular : LoggingSection.shape.Regular LoggingSection.toJson := by
  refine .of_puts fun m listed => ?_
  simp only [shape, List.mem_cons, List.not_mem_nil, or_false] at listed
  rcases listed with rfl | rfl <;>
  · refine ⟨_, _, _, fun _ _ => rfl, fun a b v => ?_, fun a v key differ => ?_⟩ <;>
    · rw [toJson, toJson, Json.member?_obj, Json.member?_obj]
      grind [Members.lookup_cons]

namespace Config

theorem regular : Config.shape.Regular Config.toJson := by
  refine .of_puts fun m listed => ?_
  simp only [shape, List.mem_cons, List.not_mem_nil, or_false] at listed
  rcases listed with rfl | rfl | rfl | rfl | rfl <;>
  · refine ⟨_, _, _, fun _ _ => rfl, fun a b v => ?_, fun a v key differ => ?_⟩ <;>
    · rw [toJson, toJson, Json.member?_obj, Json.member?_obj]
      grind [Members.lookup_cons]

/-- A section of the configuration: the record that it is read as, where it is put, and what it
is written as. -/
structure Section (m : MemberShape Config) (β : Type) where
  shape : RecordShape β
  write : β → Json
  start : β
  get : Config → β
  put : Config → β → Config
  regular : shape.Regular write
  set : ∀ c json, m.set c json = (shape.read start json).map (put c)
  get_put : ∀ c b, get (put c b) = b
  written : ∀ c, c.toJson.member? m.name = some (write (get c))

/-- Every member of the configuration is a section. -/
theorem exists_section {m : MemberShape Config} (listed : m ∈ Config.shape.members) :
    ∃ β, Nonempty (Section m β) := by
  simp only [shape, List.mem_cons, List.not_mem_nil, or_false] at listed
  rcases listed with rfl | rfl | rfl | rfl | rfl
  · exact ⟨_, ⟨⟨_, _, _, Config.server, _, ServerSection.regular, fun _ _ => rfl, fun _ _ => rfl,
      fun _ => rfl⟩⟩⟩
  · exact ⟨_, ⟨⟨_, _, _, Config.apis, _, ApisSection.regular, fun _ _ => rfl, fun _ _ => rfl,
      fun _ => rfl⟩⟩⟩
  · exact ⟨_, ⟨⟨_, _, _, Config.codec, _, CodecSection.regular, fun _ _ => rfl, fun _ _ => rfl,
      fun _ => rfl⟩⟩⟩
  · exact ⟨_, ⟨⟨_, _, _, Config.reporting, _, ReportingSection.regular, fun _ _ => rfl,
      fun _ _ => rfl, fun _ => rfl⟩⟩⟩
  · exact ⟨_, ⟨⟨_, _, _, Config.logging, _, LoggingSection.regular, fun _ _ => rfl,
      fun _ _ => rfl, fun _ => rfl⟩⟩⟩

/-- Each section that a document names is read by itself. -/
theorem exists_section_of_takes {group : String} {json : Json}
    (takes : Config.shape.Takes group json) : ∃ (m : MemberShape Config) (β : Type),
      m.name = group ∧ Nonempty (Section m β) ∧
        ∀ start other, Config.shape.setMember start (group, other) = m.set start other := by
  obtain ⟨_, _, set⟩ := takes
  obtain ⟨m, listed, named, _, same⟩ := RecordShape.exists_of_setMember set
  obtain ⟨β, section_⟩ := exists_section listed
  exact ⟨m, β, named, section_, same⟩

variable {group key : String} {value below above : Json} {a b c d : Config}

namespace Section

variable {m : MemberShape Config} {β : Type} {s : Section m β}

theorem exists_read_iff : (∃ d, m.set c value = .ok d) ↔
    ∃ b, s.shape.read s.start value = .ok b := by
  rw [s.set]
  constructor
  · rintro ⟨d, set⟩
    obtain ⟨b, read, _⟩ := map_eq_ok.mp set
    exact ⟨b, read⟩
  · rintro ⟨b, read⟩
    exact ⟨s.put c b, by rw [read]; rfl⟩

/-- Two values of a section that are both read are read when one is laid over the other, unless
their members get mixed. -/
theorem exists_set_merge (s : Section m β) (left : below.Ordered) (right : above.Ordered)
    (first : m.set a below = .ok c) (second : m.set b above = .ok d)
    (unmixed : ∀ key v w, below.member? key = some v → above.member? key = some w →
      v.Unmixed w) : ∃ e, m.set a (below.merge above) = .ok e := by
  obtain ⟨x, first⟩ := s.exists_read_iff.mp ⟨c, first⟩
  obtain ⟨y, second⟩ := s.exists_read_iff.mp ⟨d, second⟩
  refine s.exists_read_iff.mpr (s.regular.exists_read_merge left right first second ?_)
  intro key v w here there
  -- A value that is not mixed with the one below replaces it, and is accepted already.
  rw [Json.merge_of_unmixed (right.of_member? there) (unmixed key v w here there)]
  exact s.regular.takes second there

/-- The section of a configuration that is read is what its value is read as. -/
theorem exists_read (s : Section m β) {members : List (String × Json)}
    (ordered : (Json.obj members).Ordered) (read : Config.read (.obj members) = .ok c)
    (found : Members.lookup m.name members = some value)
    (same : ∀ start other, Config.shape.setMember start (m.name, other) = m.set start other) :
    ∃ b, s.shape.read s.start value = .ok b ∧ c.toJson.member? m.name = some (s.write b) := by
  have given : (Json.obj members).member? m.name = some value := found
  obtain ⟨start, d, set⟩ := Config.regular.takes read given
  have kept := Config.regular.member?_read read ordered.nodup found ⟨start, set⟩
  rw [same, s.set] at set
  obtain ⟨b, read, rfl⟩ := map_eq_ok.mp set
  exact ⟨b, read, by rw [kept, s.written, s.get_put]⟩

end Section

/-! ### Documents over one another -/

/-- A document over another is read if both are and none of their settings get mixed. -/
theorem exists_read_merge (left : below.Ordered) (right : above.Ordered)
    (first : Config.read below = .ok a) (second : Config.read above = .ok b)
    (unmixed : ∀ group key v w, below.setting? group key = some v →
      above.setting? group key = some w → v.Unmixed w) :
    ∃ c, Config.read (below.merge above) = .ok c := by
  refine regular.exists_read_merge left right first second fun group v w here there => ?_
  have lower := regular.takes first here
  obtain ⟨m, β, rfl, ⟨s⟩, same⟩ := exists_section_of_takes lower
  obtain ⟨x, _, set⟩ := lower
  obtain ⟨y, _, set'⟩ := regular.takes second there
  rw [same] at set set'
  obtain ⟨e, merged⟩ := s.exists_set_merge (left.of_member? here) (right.of_member? there) set set'
    fun key v' w' inner outer => unmixed m.name key v' w'
      ((Json.setting?_of_some here).trans inner) ((Json.setting?_of_some there).trans outer)
  exact ⟨x, e, by rw [same, merged]⟩

/-! ### Settings -/

/-- The value of a setting as it is written. -/
def setting (c : Config) (group key : String) : Option Json := c.toJson.setting? group key

/-- A setting that two documents give the same value has the same value in what is read. -/
theorem setting_eq (left : below.Ordered) (right : above.Ordered) (lower : below.HasTable group)
    (upper : above.HasTable group) (first : Config.read below = .ok c)
    (second : Config.read above = .ok d) (here : below.setting? group key = some value)
    (there : above.setting? group key = some value) :
    c.setting group key = d.setting group key := by
  obtain ⟨members, rfl, inner⟩ := lower
  obtain ⟨layer, rfl, outer⟩ := upper
  obtain ⟨v, found, given⟩ := Option.bind_eq_some_iff.mp here
  obtain ⟨w, found', given'⟩ := Option.bind_eq_some_iff.mp there
  obtain ⟨own, rfl⟩ := inner v found
  obtain ⟨others, rfl⟩ := outer w found'
  obtain ⟨m, β, rfl, ⟨s⟩, same⟩ := exists_section_of_takes (regular.takes first found)
  -- Both sections are read by one record, and the setting is what its value makes of it.
  obtain ⟨x, read, written⟩ := s.exists_read left first found same
  obtain ⟨y, read', written'⟩ := s.exists_read right second found' same
  rw [setting, setting, Json.setting?_of_some written, Json.setting?_of_some written']
  exact s.regular.member?_eq (left.member (Members.mem_of_lookup found))
    (right.member (Members.mem_of_lookup found')) read read' given given'

/-! ### What a configuration is written as -/

/-- A value that a setting is written as: an atom or a list of texts. -/
def Plain (json : Json) : Prop := json.isAtom ∨ ∃ texts, json = .ofTexts texts

@[simp] theorem plain_bool (b : Bool) : Plain (.bool b) := .inl rfl

@[simp] theorem plain_int (n : Int) : Plain (.int n) := .inl rfl

@[simp] theorem plain_str (text : String) : Plain (.str text) := .inl rfl

@[simp] theorem plain_ofTexts (texts : List String) : Plain (.ofTexts texts) := .inr ⟨texts, rfl⟩

@[simp] theorem plain_ofText? (text : Option String) : Plain (.ofText? text) := by
  cases text <;> exact .inl rfl

@[simp] theorem plain_ofNat? (number : Option Nat) : Plain (.ofNat? number) := by
  cases number <;> exact .inl rfl

theorem Plain.ordered (plain : Plain value) : value.Ordered := by
  rcases plain with atom | ⟨texts, rfl⟩
  · exact .atom value atom
  · refine .arr _ fun item listed => ?_
    obtain ⟨text, _, rfl⟩ := List.mem_map.mp listed
    exact .atom _ rfl

theorem Plain.ne_obj (plain : Plain value) (members : List (String × Json)) :
    value ≠ .obj members := by
  rintro rfl
  rcases plain with atom | ⟨texts, same⟩
  · cases atom
  · cases same

/-- A section is written as an object with increasing keys and plain values. -/
theorem exists_section_written {outer : Json} (found : c.toJson.member? group = some outer) :
    ∃ members, outer = .obj members ∧ Members.Sorted members ∧ ∀ p ∈ members, Plain p.2 := by
  have listed := Members.mem_of_lookup found
  simp only [List.mem_cons, List.not_mem_nil, or_false, Prod.mk.injEq] at listed
  rcases listed with ⟨rfl, rfl⟩ | ⟨rfl, rfl⟩ | ⟨rfl, rfl⟩ | ⟨rfl, rfl⟩ | ⟨rfl, rfl⟩
  · have keys : ["artifact_dir", "builtin", "force", "ignore", "path"].Pairwise (· < ·) := by
      decide +kernel
    exact ⟨_, rfl, Members.sorted_iff_keys.mpr keys, by simp⟩
  · have keys : ["timestamp_format", "unknown_fields"].Pairwise (· < ·) := by decide +kernel
    exact ⟨_, rfl, Members.sorted_iff_keys.mpr keys, by simp⟩
  · have keys : ["format", "level"].Pairwise (· < ·) := by decide +kernel
    exact ⟨_, rfl, Members.sorted_iff_keys.mpr keys, by simp⟩
  · have keys : ["enabled", "service_name", "slow_call_ms"].Pairwise (· < ·) := by decide +kernel
    exact ⟨_, rfl, Members.sorted_iff_keys.mpr keys, by simp⟩
  · have keys : ["body_timeout_ms", "http_addr", "max_body_bytes", "port", "request_timeout_ms",
        "shutdown_timeout_secs"].Pairwise (· < ·) := by decide +kernel
    exact ⟨_, rfl, Members.sorted_iff_keys.mpr keys, by simp⟩

theorem ordered_toJson (c : Config) : c.toJson.Ordered := by
  have keys : ["apis", "codec", "logging", "reporting", "server"].Pairwise (· < ·) := by
    decide +kernel
  have sorted : Members.Sorted [("apis", c.apis.toJson), ("codec", c.codec.toJson),
      ("logging", c.logging.toJson), ("reporting", c.reporting.toJson),
      ("server", c.server.toJson)] := Members.sorted_iff_keys.mpr keys
  refine .obj _ sorted fun p listed => ?_
  have found := Members.lookup_of_mem sorted.nodup_keys listed
  obtain ⟨members, same, inner, plain⟩ := exists_section_written found
  rw [same]
  exact .obj members inner fun q among => (plain q among).ordered

theorem hasTable_toJson (c : Config) (group : String) : c.toJson.HasTable group := by
  refine ⟨_, rfl, fun value found => ?_⟩
  obtain ⟨members, same, _⟩ := exists_section_written found
  exact ⟨members, same⟩

/-- No setting is written as an object. -/
theorem setting_ne_obj (given : c.setting group key = some value) (members : List (String × Json)) :
    value ≠ .obj members := by
  obtain ⟨outer, found, given⟩ := Option.bind_eq_some_iff.mp given
  obtain ⟨inner, rfl, _, plain⟩ := exists_section_written found
  exact (plain (key, value) (Members.mem_of_lookup given)).ne_obj members

/-- All configurations have the same settings. -/
theorem isSome_setting (given : (c.setting group key).isSome) (d : Config) :
    (d.setting group key).isSome := by
  obtain ⟨value, given⟩ := Option.isSome_iff_exists.mp given
  obtain ⟨outer, found, given⟩ := Option.bind_eq_some_iff.mp given
  have listed := Members.mem_of_lookup found
  simp only [List.mem_cons, List.not_mem_nil, or_false, Prod.mk.injEq] at listed
  rcases listed with ⟨rfl, rfl⟩ | ⟨rfl, rfl⟩ | ⟨rfl, rfl⟩ | ⟨rfl, rfl⟩ | ⟨rfl, rfl⟩ <;>
  · have among := Members.isSome_lookup_iff.mp (Option.isSome_iff_exists.mpr ⟨value, given⟩)
    exact Members.isSome_lookup_iff.mpr among

theorem read_toJson_default : read ({} : Config).toJson = .ok {} := by rfl

theorem read_toJson_development : read development.toJson = .ok development := by rfl

/-- A configuration is known by its settings. -/
theorem ext_setting (same : ∀ group key, c.setting group key = d.setting group key) : c = d := by
  have flag {b b' : Bool} (same : some (Json.bool b) = some (.bool b')) : b = b' :=
    Json.bool.inj (Option.some.inj same)
  have text {s t : String} (same : some (Json.str s) = some (.str t)) : s = t :=
    Json.str.inj (Option.some.inj same)
  have number {m n : Nat} (same : some (Json.int m) = some (.int n)) : m = n :=
    Int.ofNat.inj (Json.int.inj (Option.some.inj same))
  have text? {s t : Option String} (same : some (Json.ofText? s) = some (.ofText? t)) : s = t :=
    Json.ofText?_injective (Option.some.inj same)
  ext1
  case server =>
    exact ServerSection.ext (text (same "server" "http_addr"))
      (Json.ofNat?_injective (Option.some.inj (same "server" "port")))
      (number (same "server" "request_timeout_ms")) (number (same "server" "body_timeout_ms"))
      (number (same "server" "shutdown_timeout_secs")) (number (same "server" "max_body_bytes"))
  case apis =>
    exact ApisSection.ext (text (same "apis" "path"))
      (Json.ofTexts_injective (Option.some.inj (same "apis" "ignore")))
      (flag (same "apis" "builtin")) (text? (same "apis" "artifact_dir"))
      (flag (same "apis" "force"))
  case codec =>
    exact CodecSection.ext (UnknownFields.name_injective (text (same "codec" "unknown_fields")))
      (text (same "codec" "timestamp_format"))
  case reporting =>
    exact ReportingSection.ext (flag (same "reporting" "enabled"))
      (number (same "reporting" "slow_call_ms")) (text? (same "reporting" "service_name"))
  case logging =>
    exact LoggingSection.ext (text (same "logging" "level"))
      (LogFormat.name_injective (text (same "logging" "format")))

end Config

end ApiContract
