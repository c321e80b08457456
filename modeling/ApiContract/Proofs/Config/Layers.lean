import ApiContract.Proofs.Config.Schema
import ApiContract.Proofs.Json.Text
import ApiContract.Proofs.Toml
import Mathlib.Data.List.Chain

/-!
# Which layer a setting is from

A configuration is put together of a preset and the documents over it. A setting has the value
that the last document that names it has for it, and that of the preset if no document does,
as long as two things are kept apart that the merging of documents does not keep apart. A choice
may be written as an object, whose only key is the name of what is chosen; two such objects are
merged into one that names both. And a section may be written as an array, which takes the place
of the section below as a whole, and is itself given up for an object above it.

## Main definitions

* `Config.Layer` — a document that has been taken
* `Loader.Layered` — the documents over a preset

## Main results

* `Loader.Covers` with `Loader.Covers.snoc` — the documents laid over one another hold the last
  value of each setting
* `Loader.loadUnchecked_of_layered` — which layer a setting is from
-/

namespace ApiContract

/-! ### Documents -/

theorem ConfigFormat.ordered_of_read {format : ConfigFormat} {text : String} {json : Json}
    (read : format.read text = .ok json) : json.Ordered := by
  have given : ∀ json? : Option Json,
      json?.elim (.error (.malformed format)) Except.ok = Except.ok (ε := ConfigError) json →
        json? = some json := by
    rintro (_ | other) same
    · cases same
    · exact congrArg some (Except.ok.inj same)
  cases format with
  | toml => exact Toml.ordered_of_read (given _ read)
  | json => exact Json.ordered_of_read (given _ read)
  | yaml =>
    obtain ⟨node, _, done⟩ := Option.bind_eq_some_iff.mp (given _ read)
    exact Yaml.ordered_of_jsonOf? done

/-- A document that has been taken: its value, and the configuration that it is on its own. -/
structure Config.Layer where
  json : Json
  ordered : json.Ordered
  config : Config
  fits : Config.read json = .ok config

namespace Config.Layer

/-- The value that a document gives a setting. -/
def value? (x : Layer) (group key : String) : Option Json := x.json.setting? group key

/-- Whether a document names a setting. -/
def names (x : Layer) (group key : String) : Bool := (x.value? group key).isSome

end Config.Layer

namespace Loader

open Config (Layer)

/-- What is taken of a document fits the sections on its own. -/
theorem exists_layer {text format origin : String} {json : Json}
    (read : Loader.layer text format origin = .ok json) : ∃ x : Layer, x.json = json := by
  rw [layer] at read
  dsimp only at read
  split at read
  · obtain ⟨j, done, read⟩ := bind_eq_ok.mp read
    obtain ⟨c, fits, read⟩ := bind_eq_ok.mp read
    obtain rfl := Except.ok.inj read
    have ordered : (if j.isNull then Json.obj [] else j).Ordered := by
      split
      · exact .obj [] .nil (by simp)
      · exact ConfigFormat.ordered_of_read done
    exact ⟨⟨_, ordered, c, mapError_eq_ok.mp fits⟩, rfl⟩
  · cases read

/-- A document that is no `null` is taken as it is, if it fits. -/
theorem layer_eq_ok {text format origin : String} {f : ConfigFormat} {x : Layer}
    (named : ConfigFormat.ofExtension? (Text.lower format) = some f)
    (read : f.read text = .ok x.json) (given : x.json.isNull = false) :
    layer text format origin = .ok x.json := by
  simp [layer, named, read, given, x.fits, bind, Except.bind, Except.mapError, pure, Except.pure]

/-- A loader that has been given documents, in this order. The preset may be chosen at any time;
the defaults start over. -/
inductive Layered : Loader → List Layer → Prop
  | defaults (l : Loader) : Layered l.withDefaults []
  | development (l : Loader) (layers : List Layer) (laid : Layered l layers) :
      Layered l.withDevelopment layers
  | production (l : Loader) (layers : List Layer) (laid : Layered l layers) :
      Layered l.withProduction layers
  | text (l l' : Loader) (layers : List Layer) (x : Layer) (text format : String)
      (laid : Layered l layers) (read : layer text format "<string>" = .ok x.json)
      (added : l.withText text format = .ok l') : Layered l' (layers ++ [x])
  | file (l l' : Loader) (layers : List Layer) (x : Layer) (files : Files)
      (path text format : String) (laid : Layered l layers)
      (stored : files.read? path = some text) (named : Path.extension? path = some format)
      (read : layer text format path = .ok x.json)
      (added : l.withFile files path = .ok l') : Layered l' (layers ++ [x])

variable {l l' : Loader} {layers : List Layer} {overlay : Json} {group key : String}

/-- Every text that is taken is a layer. -/
theorem Layered.exists_text {text format : String} (laid : Layered l layers)
    (added : l.withText text format = .ok l') : ∃ x, Layered l' (layers ++ [x]) := by
  obtain ⟨json, read, _⟩ := map_eq_ok.mp added
  obtain ⟨x, rfl⟩ := exists_layer read
  exact ⟨x, .text l l' layers x text format laid read added⟩

/-- What it takes for a file to be taken. -/
theorem withFile_eq_ok {files : Files} {path : String} (added : l.withFile files path = .ok l') :
    ∃ text format json, files.read? path = some text ∧ Path.extension? path = some format ∧
      layer text format path = .ok json ∧
      l' = { l.withLayer json with files := l.files ++ [path] } := by
  rw [withFile] at added
  split at added
  · cases added
  · dsimp only [pure_bind] at added
    cases stored : files.read? path with
    | none =>
      rw [stored] at added
      cases added
    | some text =>
      cases named : Path.extension? path with
      | none =>
        rw [stored, named] at added
        cases added
      | some format =>
        rw [stored, named] at added
        obtain ⟨json, read, added⟩ := bind_eq_ok.mp added
        exact ⟨text, format, json, rfl, rfl, read, (Except.ok.inj added).symm⟩

/-- Every file that is taken is a layer. -/
theorem Layered.exists_file {files : Files} {path : String} (laid : Layered l layers)
    (added : l.withFile files path = .ok l') : ∃ x, Layered l' (layers ++ [x]) := by
  obtain ⟨text, format, json, stored, named, read, _⟩ := withFile_eq_ok added
  obtain ⟨x, rfl⟩ := exists_layer read
  exact ⟨x, .file l l' layers x files path text format laid stored named read added⟩

/-! ### Documents laid over one another -/

/-- No two different objects follow one another among the values that documents give a setting. -/
def Unmixed (layers : List Layer) : Prop :=
  ∀ group key, (layers.filterMap (·.value? group key)).IsChain Json.Unmixed

/-- What documents laid over one another hold: it is read, a setting that it has is that of the
last document that names it, and where all have objects for a section it has every setting that
is named. -/
structure Covers (layers : List Layer) (overlay : Json) : Prop where
  ordered : overlay.Ordered
  fits : ∃ c, Config.read overlay = .ok c
  last : ∀ group key value, overlay.setting? group key = some value →
    (layers.filterMap (·.value? group key)).getLast? = some value
  table : ∀ group, (∀ x ∈ layers, x.json.HasTable group) → overlay.HasTable group
  -- This is more than `last`: nothing that is named is lost.
  kept : ∀ group, (∀ x ∈ layers, x.json.HasTable group) → ∀ key,
    overlay.setting? group key = (layers.filterMap (·.value? group key)).getLast?

theorem Covers.nil : Covers [] (.obj []) where
  ordered := .obj [] .nil (by simp)
  fits := ⟨{}, rfl⟩
  last group key value found := by cases found
  table group _ := ⟨[], rfl, nofun⟩
  kept group _ key := rfl

/-- The values of a setting end with that of the last document, if it names the setting. -/
theorem getLast?_snoc (layers : List Layer) (x : Layer) (group key : String) :
    ((layers ++ [x]).filterMap (·.value? group key)).getLast? =
      (x.value? group key).or (layers.filterMap (·.value? group key)).getLast? := by
  rw [List.filterMap_append]
  cases named : x.value? group key with
  | none => simp [named]
  | some value => simp [named]

/-- One more document. -/
theorem Covers.snoc (covers : Covers layers overlay) {x : Layer}
    (unmixed : Unmixed (layers ++ [x])) : Covers (layers ++ [x]) (overlay.merge x.json) := by
  -- What the new document gives a setting is laid over the last value that it was given before.
  have apart : ∀ group key v w, overlay.setting? group key = some v →
      x.json.setting? group key = some w → v.Unmixed w := by
    intro group key v w here there
    have chain := unmixed group key
    have single : [x].filterMap (·.value? group key) = [w] := by
      simp [Layer.value?, there]
    rw [List.filterMap_append, single, List.isChain_append] at chain
    exact chain.2.2 v (covers.last group key v here) w rfl
  obtain ⟨c, fits⟩ := covers.fits
  refine ⟨Json.ordered_merge covers.ordered x.ordered,
    Config.exists_read_merge covers.ordered x.ordered fits x.fits apart, ?_, ?_, ?_⟩
  · intro group key value found
    rw [getLast?_snoc, Layer.value?]
    rcases Json.setting?_of_merge x.ordered (apart group key) found with above | ⟨absent, below⟩
    · rw [above, Option.some_or]
    · rw [absent, Option.none_or]
      exact covers.last group key value below
  · intro group tables
    exact (covers.table group fun y listed => tables y (by simp [listed])).merge x.ordered
      (tables x (by simp))
  · intro group tables key
    have earlier : ∀ y ∈ layers, y.json.HasTable group := fun y listed =>
      tables y (by simp [listed])
    rw [getLast?_snoc, Json.setting?_merge x.ordered (apart group key) (covers.table group earlier)
      (tables x (by simp)), covers.kept group earlier key]
    rfl

/-- Where no setting is given as an object there is nothing to be mixed. -/
theorem unmixed_of_ne_obj (plain : ∀ x ∈ layers, ∀ group key members,
    x.value? group key ≠ some (.obj members)) : Unmixed layers := by
  intro group key
  refine List.Pairwise.isChain (List.pairwise_of_forall_mem_list fun v listed w _ => ?_)
  rintro members layer rfl -
  obtain ⟨x, among, given⟩ := List.mem_filterMap.mp listed
  exact absurd given (plain x among group key members)

theorem Unmixed.init {x : Layer} (unmixed : Unmixed (layers ++ [x])) : Unmixed layers := by
  intro group key
  have chain := unmixed group key
  rw [List.filterMap_append] at chain
  exact chain.left_of_append

/-- The layers of a loader. -/
theorem Layered.covers (laid : Layered l layers) (unmixed : Unmixed layers) :
    Covers layers l.layers := by
  induction laid with
  | defaults l => exact .nil
  | development l layers laid ih => exact ih unmixed
  | production l layers laid ih => exact ih unmixed
  | text l l' layers x text format laid read added ih =>
    obtain ⟨json, again, rfl⟩ := map_eq_ok.mp added
    obtain rfl := Except.ok.inj (read.symm.trans again)
    exact (ih unmixed.init).snoc unmixed
  | file l l' layers x files path text format laid stored named read added ih =>
    obtain ⟨_, _, _, stored', named', again, rfl⟩ := withFile_eq_ok added
    obtain rfl := Option.some.inj (stored.symm.trans stored')
    obtain rfl := Option.some.inj (named.symm.trans named')
    obtain rfl := Except.ok.inj (read.symm.trans again)
    exact (ih unmixed.init).snoc unmixed

/-- A preset is read back from what it is written as. -/
theorem Layered.read_preset (laid : Layered l layers) :
    Config.read l.preset.toJson = .ok l.preset := by
  induction laid with
  | defaults l => exact Config.read_toJson_default
  | development l layers laid ih => exact Config.read_toJson_development
  | production l layers laid ih => exact Config.read_toJson_default
  | text l l' layers x text format laid read added ih =>
    obtain ⟨json, _, rfl⟩ := map_eq_ok.mp added
    exact ih
  | file l l' layers x files path text format laid stored named read added ih =>
    obtain ⟨_, _, _, _, _, _, rfl⟩ := withFile_eq_ok added
    exact ih

/-! ### Settings -/

/-- The last value of a setting is that of the last document that names it. -/
theorem getLast?_filterMap (layers : List Layer) (group key : String) :
    (layers.filterMap (·.value? group key)).getLast? =
      (layers.filter (·.names group key)).getLast?.bind (·.value? group key) := by
  induction layers using List.reverseRecOn with
  | nil => rfl
  | append_singleton layers x ih =>
    rw [getLast?_snoc, List.filter_append]
    cases named : x.value? group key with
    | none => simp [Layer.names, named, ih]
    | some value => simp [Layer.names, named]

/-- The configuration that a setting is from: the last document that names it, taken on its own,
or else the preset. -/
def source (l : Loader) (layers : List Layer) (group key : String) : Config :=
  ((layers.filter (·.names group key)).getLast?.map (·.config)).getD l.preset

/-- Documents that have been taken one by one make up a configuration, if no two different
objects are given one after the other for the same setting. Each setting in a section that all of
them give as an object, if at all, then has the value that it has in the last document that
names it, or that of the preset. -/
theorem loadUnchecked_of_layered (laid : Layered l layers) (unmixed : Unmixed layers) :
    ∃ c, l.loadUnchecked = .ok c ∧ ∀ group, (∀ x ∈ layers, x.json.HasTable group) →
      ∀ key, c.setting group key = (l.source layers group key).setting group key := by
  have covers := laid.covers unmixed
  have below := Config.ordered_toJson l.preset
  -- No setting of the preset is written as an object, so that nothing is mixed with it.
  have apart : ∀ group key v w, l.preset.toJson.setting? group key = some v →
      l.layers.setting? group key = some w → v.Unmixed w := by
    rintro group key v w given - members layer rfl -
    exact absurd rfl (Config.setting_ne_obj given members)
  obtain ⟨overlay, fits⟩ := covers.fits
  obtain ⟨c, read⟩ := Config.exists_read_merge below covers.ordered laid.read_preset fits apart
  refine ⟨c, mapError_eq_ok.mpr read, fun group tables key => ?_⟩
  have lower := Config.hasTable_toJson l.preset group
  have upper := covers.table group tables
  have whole := lower.merge covers.ordered upper
  have value := Json.setting?_merge covers.ordered (apart group key) lower upper
  rw [covers.kept group tables key, getLast?_filterMap] at value
  have merged := Json.ordered_merge below covers.ordered
  rw [source]
  cases found : (layers.filter (·.names group key)).getLast? with
  | some x =>
    obtain ⟨listed, named⟩ := List.mem_filter.mp (List.mem_of_getLast? found)
    obtain ⟨v, given⟩ := Option.isSome_iff_exists.mp named
    rw [found, Option.bind_some, given, Option.some_or] at value
    exact Config.setting_eq merged x.ordered whole (tables x listed) read x.fits value given
  | none =>
    rw [found, Option.bind_none, Option.none_or] at value
    cases given : l.preset.toJson.setting? group key with
    | some v =>
      exact Config.setting_eq merged below whole lower read laid.read_preset (value.trans given)
        given
    | none =>
      -- A setting that the preset does not have is one that no configuration has.
      cases other : c.setting group key with
      | none => exact given.symm
      | some v =>
        have also := Config.isSome_setting (Option.isSome_iff_exists.mpr ⟨v, other⟩) l.preset
        rw [Config.setting, given] at also
        cases also

/-! ### Documents that name the level of logs -/

/-- A document that names the level of logs. -/
def levelJson (level : String) : Json := .obj [("logging", .obj [("level", .str level)])]

theorem ordered_levelJson (level : String) : (levelJson level).Ordered := by
  refine .obj _ (List.pairwise_singleton _ _) fun p listed => ?_
  obtain rfl := List.mem_singleton.mp listed
  refine .obj _ (List.pairwise_singleton _ _) fun q among => ?_
  obtain rfl := List.mem_singleton.mp among
  exact .atom _ rfl

theorem textual_levelJson (level : String) : (levelJson level).Textual := by
  refine .obj _ fun p listed => ?_
  obtain rfl := List.mem_singleton.mp listed
  refine .obj _ fun q among => ?_
  obtain rfl := List.mem_singleton.mp among
  exact .str level

theorem hasTable_levelJson (level group : String) : (levelJson level).HasTable group := by
  refine ⟨_, rfl, fun value found => ?_⟩
  obtain ⟨_, rfl⟩ := Prod.mk.inj (List.mem_singleton.mp (Members.mem_of_lookup found))
  exact ⟨_, rfl⟩

theorem setting?_levelJson_ne_obj (level group key : String) (members : List (String × Json)) :
    (levelJson level).setting? group key ≠ some (.obj members) := by
  intro given
  obtain ⟨outer, found, given⟩ := Option.bind_eq_some_iff.mp given
  obtain ⟨_, rfl⟩ := Prod.mk.inj (List.mem_singleton.mp (Members.mem_of_lookup found))
  have same := (Prod.mk.inj (List.mem_singleton.mp (Members.mem_of_lookup given))).2
  cases same

/-- The document as it has been taken. -/
def levelLayer (level : String) : Layer where
  json := levelJson level
  ordered := ordered_levelJson level
  config := { logging := { level } }
  fits := rfl

theorem layer_levelJson (level : String) :
    layer (levelJson level).pretty "json" "<string>" = .ok (levelLayer level).json := by
  have shallow : (levelJson level).depth ≤ Json.maxDepth := by
    show 2 ≤ 127
    decide
  refine layer_eq_ok (f := .json) (by decide +kernel) ?_ rfl
  rw [ConfigFormat.read, Json.read, Json.readAsWritten_pretty (textual_levelJson level),
    if_pos shallow]
  rfl

/-- Of two documents that name the level the last counts; the format, which none of them names, is
that of the preset. -/
theorem loadUnchecked_of_layered_levels :
    ∃ l layers c, Layered l layers ∧ Unmixed layers ∧
      (∀ x ∈ layers, ∀ group, x.json.HasTable group) ∧ l.loadUnchecked = .ok c ∧
      c.setting "logging" "level" = some (.str "warn") ∧
      c.setting "logging" "format" = some (.str "pretty") := by
  have added (l : Loader) (level : String) : l.withText (levelJson level).pretty "json" =
      .ok (l.withLayer (levelLayer level).json) := by
    rw [withText, layer_levelJson]
    rfl
  have start : Layered ({} : Loader).withDefaults.withDevelopment [] :=
    .development _ _ (.defaults {})
  have one := start.text _ _ _ _ _ _ (layer_levelJson "trace") (added _ _)
  have two := one.text _ _ _ _ _ _ (layer_levelJson "warn") (added _ _)
  have tables : ∀ x ∈ [levelLayer "trace", levelLayer "warn"], ∀ group,
      x.json.HasTable group := by
    simp [levelLayer, hasTable_levelJson]
  have unmixed : Unmixed [levelLayer "trace", levelLayer "warn"] := unmixed_of_ne_obj (by
    simp [levelLayer, Layer.value?, setting?_levelJson_ne_obj])
  obtain ⟨c, loaded, values⟩ := loadUnchecked_of_layered two unmixed
  have value := values "logging" fun x listed => tables x listed "logging"
  refine ⟨_, _, c, two, unmixed, tables, loaded, ?_, ?_⟩
  · rw [value]
    rfl
  · rw [value]
    rfl

/-- A document that chooses a format for logs by an object. -/
def formatDocument (name : String) : String :=
  "\x7b\"logging\": \x7b\"format\": \x7b\"" ++ name ++ "\": null\x7d\x7d\x7d"

/-- Two documents that are both taken, and choose different formats as objects, make up no
configuration; and a section that is given as an array undoes the preset where it names
nothing. -/
theorem loadUnchecked_mixed :
    ((({} : Loader).withText (formatDocument "json") "json" >>=
      (·.withText (formatDocument "pretty") "json")).toOption.map (·.loadUnchecked)) =
        some (.error (.misfit "merged layers"
          "invalid value: map, expected map with a single key")) ∧
    (({} : Loader).withDevelopment.withText "\x7b\"logging\": [\"warn\"]\x7d" "json").toOption.map
      (fun l => (l.preset.logging.format, l.loadUnchecked.toOption.map (·.logging.format))) =
        some (.pretty, some .json) := by
  decide +kernel

end Loader

end ApiContract
