import ApiContract.Proofs.Model.Reading
import ApiContract.Proofs.Model.Writing
import ApiContract.Proofs.Registry

/-!
# Agreement between APIs

Two closed sets whose models of one name have the same structure read every JSON value alike.
The structures are compared by the names of the types only, but a type that both sets name
stands for models of the same structure again, so reading one value simulates reading it in
the other set at every depth. The orders of the fields may differ, and with them the failure
that is reported first.

## Main results

* `Model.exists_alike` — models of the same structure have the same fields
* `ModelSet.readValue_simulates` — what one set reads, the other reads as the same JSON
* `Registry.decode_agrees` — registered APIs agree on the models that they share
-/

namespace ApiContract

/-! ### Models of the same structure -/

namespace Model

variable {m n : Model}

theorem lookup_shape (distinct : m.fieldNames.Nodup) {name : String} {type : FieldType}
    {presence : Presence} :
    Members.lookup name m.shape = some (type, presence) ↔
      ∃ f ∈ m.fields, f.name = name ∧ f.type = type ∧ f.presence = presence := by
  have keys : Members.keys (m.fields.map fun f => (f.name, f.type, f.presence)) = m.fieldNames := by
    rw [Members.keys, List.map_map]
    rfl
  have once : (Members.keys (m.fields.map fun f => (f.name, f.type, f.presence))).Nodup := by
    rwa [keys]
  rw [shape, Members.lookup_ofList once]
  constructor
  · intro found
    obtain ⟨f, member, same⟩ := List.mem_map.mp (Members.mem_of_lookup found)
    simp only [Prod.mk.injEq] at same
    exact ⟨f, member, same⟩
  · rintro ⟨f, member, rfl, rfl, rfl⟩
    exact Members.lookup_of_mem once (List.mem_map_of_mem member)

/-- Models of the same structure have the same fields, though in any order. -/
theorem exists_alike (left : m.fieldNames.Nodup) (right : n.fieldNames.Nodup)
    (same : m.shape = n.shape) {f : Field} (member : f ∈ m.fields) :
    ∃ g ∈ n.fields, g.name = f.name ∧ g.type = f.type ∧ g.presence = f.presence := by
  rw [← lookup_shape right, ← same, lookup_shape left]
  exact ⟨f, member, rfl, rfl, rfl⟩

theorem mem_fieldNames_of_shape (left : m.fieldNames.Nodup) (right : n.fieldNames.Nodup)
    (same : m.shape = n.shape) {name : String} (declared : name ∈ m.fieldNames) :
    name ∈ n.fieldNames := by
  obtain ⟨f, member, rfl⟩ := List.mem_map.mp declared
  obtain ⟨g, there, named, _⟩ := exists_alike left right same member
  exact List.mem_map.mpr ⟨g, there, named⟩

end Model

/-! ### Reading in two sets -/

namespace ModelSet

variable {s t : ModelSet} {c w : Codec} {mode : Mode} {path : String}

/-- What reading in one set gives, reading in the other gives too, as far as it is
written. -/
def Simulates (w : Codec) (x y : Except ModelError Value) : Prop :=
  ∀ v, x = .ok v → ∃ u, y = .ok u ∧ u.encode w = v.encode w

private theorem readItems_simulates {items : List Json} {element : FieldType}
    (each : ∀ item ∈ items, ∀ path,
      Simulates w (readValue s c mode item element path) (readValue t c mode item element path)) :
    ∀ {i : Nat} {vs : List Value}, readItems s c mode items element path i = .ok vs →
      ∃ us, readItems t c mode items element path i = .ok us ∧
        us.map (Value.encode w) = vs.map (Value.encode w) := by
  induction items with
  | nil =>
    intro i vs ok
    rw [readItems] at ok
    obtain rfl := Except.ok.inj ok
    exact ⟨[], by rw [readItems], rfl⟩
  | cons item rest ih =>
    intro i vs ok
    obtain ⟨notNull, v, more, here, later, rfl⟩ := readItems_cons_eq_ok_iff.mp ok
    obtain ⟨u, read, same⟩ := each item List.mem_cons_self _ v here
    obtain ⟨us, behind, others⟩ := ih (fun j member => each j (List.mem_cons_of_mem _ member)) later
    refine ⟨u :: us, readItems_cons_eq_ok_iff.mpr ⟨notNull, u, us, read, behind, rfl⟩, ?_⟩
    rw [List.map_cons, List.map_cons, same, others]

/-- Fields of the same type and presence are filled alike by the same member. -/
private theorem fills_simulates {f g : Field} {place : String} {isSet : Bool}
    {json? : Option Json} (type : g.type = f.type) (presence : g.presence = f.presence)
    (each : ∀ json ∈ json?, Simulates w (readValue s c mode json f.type place)
      (readValue t c mode json f.type place)) {v? : Option Value}
    (fills : Fills s c mode f place isSet json? v?) :
    ∃ u?, Fills t c mode g place isSet json? u? ∧
      u?.map (Value.encode w) = v?.map (Value.encode w) := by
  cases fills with
  | absent known => exact ⟨none, .absent (presence ▸ known), rfl⟩
  | nulled nullable => exact ⟨some .null, .nulled (presence.trans nullable), rfl⟩
  | skipped optional => exact ⟨none, .skipped (presence.trans optional), rfl⟩
  | read json v given reads =>
    obtain ⟨u, there, same⟩ := each json rfl v reads
    exact ⟨some u, .read json u given (type ▸ there), congrArg some same⟩

section Objects

variable {m n : Model} {members : List (String × Json)}
  (left : m.fieldNames.Nodup) (right : n.fieldNames.Nodup) (same : m.shape = n.shape)
  (each : ∀ f ∈ m.fields, ∀ p ∈ members, ∀ place,
    Simulates w (readValue s c mode p.2 f.type place) (readValue t c mode p.2 f.type place))

include each in
private theorem readNamed_simulates {f g : Field} (member : f ∈ m.fields) (name : g.name = f.name)
    (type : g.type = f.type) (presence : g.presence = f.presence) {v? : Option Value}
    (ok : readNamed path (memberReaders s c mode members) { model := m } f = .ok v?) :
    ∃ u?, readNamed path (memberReaders t c mode members) { model := n } g = .ok u? ∧
      u?.map (Value.encode w) = v?.map (Value.encode w) := by
  rw [readNamed_eq_ok_iff] at ok
  simp only [readNamed_eq_ok_iff, name]
  refine fills_simulates type presence (fun json found => ?_) ok
  exact each f member _ (Members.mem_of_lookup found) _

include left right same each in
/-- When an object is read as an instance of one model, it is read as an instance of another
one of the same structure, and both are written alike. -/
private theorem readObject_simulates {i : Instance}
    (ok : readObject c path (memberReaders s c mode members) { model := m } = .ok i) :
    ∃ j, readObject c path (memberReaders t c mode members) { model := n } = .ok j ∧
      (Value.ofInstance j).encode w = (Value.ofInstance i).encode w := by
  obtain ⟨allowed, filled⟩ := (readObject_eq_ok_iff left Members.Sorted.nil).mp ok
  -- The other model reads its fields in its own order, so its success is that of each field.
  have readable : ∀ g ∈ n.fields, ∃ u?,
      readNamed path (memberReaders t c mode members) { model := n } g = .ok u? := by
    intro g member
    obtain ⟨f, there, name, type, presence⟩ := Model.exists_alike right left same.symm member
    obtain ⟨v?, read, _⟩ := filled.slots f there
    obtain ⟨u?, found, _⟩ :=
      readNamed_simulates each there name.symm type.symm presence.symm read
    exact ⟨u?, found⟩
  obtain ⟨j, read⟩ := readFields_of_each right readable
  have filled' := readFields_ok right Members.Sorted.nil read
  refine ⟨j, (readObject_eq_ok_iff right Members.Sorted.nil).mpr
    ⟨fun reject key member => ?_, filled'⟩, ?_⟩
  · rw [keys_memberReaders] at allowed member
    exact Model.mem_fieldNames_of_shape left right same (allowed reject key member)
  · rw [Value.ofInstance, Value.ofInstance, filled.model, filled'.model, Value.encode_model,
      Value.encode_model]
    congr 1
    -- Written members stand in the order of their names, so they are compared name by name.
    refine Value.members_congr right left (fun name => ?_) fun name declared => ?_
    · exact ⟨Model.mem_fieldNames_of_shape right left same.symm,
        Model.mem_fieldNames_of_shape left right same⟩
    · obtain ⟨g, member, rfl⟩ := List.mem_map.mp declared
      obtain ⟨f, there, name, type, presence⟩ := Model.exists_alike right left same.symm member
      obtain ⟨v?, here, slot⟩ := filled.slots f there
      obtain ⟨u?, found, written⟩ :=
        readNamed_simulates each there name.symm type.symm presence.symm here
      obtain ⟨again, other, slot'⟩ := filled'.slots g member
      rw [found] at other
      obtain rfl := Except.ok.inj other
      have empty : ({ model := m } : Instance).get? f.name = none := rfl
      have empty' : ({ model := n } : Instance).get? g.name = none := rfl
      rw [empty, Option.or_none] at slot
      rw [empty', Option.or_none] at slot'
      rw [Instance.get?, name] at slot
      rw [Instance.get?] at slot'
      rw [slot, slot', written]

end Objects

/-- What one closed set reads as a value of a type, another one reads as the same JSON, when
models of one name have the same structure in both. -/
theorem readValue_simulates (closed : s.Closed) (closed' : t.Closed) (agree : s.AgreesWith t)
    (json : Json) : ∀ type : FieldType, type.RefersTo s.names → type.RefersTo t.names →
      ∀ path, Simulates w (readValue s c mode json type path)
        (readValue t c mode json type path) := by
  induction json using Json.parts_induction with
  | atom json atom =>
    intro type _ _ path v ok
    rw [readValue_atom atom] at ok ⊢
    exact ⟨v, readAtom_congr ok, rfl⟩
  | arr items ih =>
    intro type known known' path v ok
    rw [readValue] at ok ⊢
    cases type with
    | list element =>
      obtain ⟨vs, read, rfl⟩ := map_eq_ok.mp ok
      obtain ⟨us, there, same⟩ :=
        readItems_simulates (fun item member => ih item member element known known') read
      refine ⟨.list us, map_eq_ok.mpr ⟨us, there, rfl⟩, ?_⟩
      rw [Value.encode, Value.encode, Value.encodeItems_eq, Value.encodeItems_eq, same]
    | _ => exact ⟨v, readAtom_congr ok, rfl⟩
  | obj members ih =>
    intro type known known' path v ok
    cases type with
    | model name =>
      obtain ⟨_, m, i, same, here, read, rfl⟩ := readValue_model_eq_ok_iff.mp ok
      obtain rfl := Json.obj.inj same
      -- The other set has a model of the name too, and names every type of its fields.
      obtain ⟨n, there⟩ := exists_of_mem_names (known' name rfl)
      have left := closed m (get?_eq_some here).1
      have right := closed' n (get?_eq_some there).1
      have same := agree name m n here there
      have each : ∀ f ∈ m.fields, ∀ p ∈ members, ∀ place, Simulates w
          (readValue s c mode p.2 f.type place) (readValue t c mode p.2 f.type place) := by
        intro f field p member place
        obtain ⟨g, field', _, type, _⟩ := Model.exists_alike left.distinct right.distinct same field
        exact ih p member f.type (left.declared f field) (type ▸ right.declared g field') place
      obtain ⟨j, read', written⟩ :=
        readObject_simulates left.distinct right.distinct same each read
      exact ⟨Value.ofInstance j,
        readValue_model_eq_ok_iff.mpr ⟨members, n, j, rfl, there, read', rfl⟩, written⟩
    | _ =>
      rw [readValue] at ok ⊢
      exact ⟨v, readAtom_congr ok, rfl⟩

/-- A body that one closed set reads, another one that agrees with it reads as the same
JSON. -/
theorem decode_simulates (closed : s.Closed) (closed' : t.Closed) (agree : s.AgreesWith t)
    {name : String} (here : s.contains name) (there : t.contains name) {json : Json}
    {i : Instance} (ok : s.decode c name json = .ok i) :
    ∃ j, t.decode c name json = .ok j ∧ j.toJson w = i.toJson w := by
  have known : (FieldType.model name).RefersTo s.names := fun k named => by
    rw [← Option.some.inj named]
    exact contains_iff.mp here
  have known' : (FieldType.model name).RefersTo t.names := fun k named => by
    rw [← Option.some.inj named]
    exact contains_iff.mp there
  obtain ⟨u, read, written⟩ :=
    readValue_simulates closed closed' agree json (.model name) known known' "$" _
      (decode_eq_ok_iff.mp ok)
  obtain ⟨_, _, j, _, _, _, rfl⟩ := readValue_model_eq_ok_iff.mp read
  exact ⟨j, decode_eq_ok_iff.mpr read, written⟩

end ModelSet

/-- Registered APIs agree on the models that they share: whatever one of them reads as such a
model, the other reads too, and both write it alike. -/
theorem Registry.decode_agrees {r : Registry} {s t : ModelSet} {a b name : String}
    (reachable : r.Reachable) (left : r.get? a = some s) (right : r.get? b = some t)
    (here : s.contains name) (there : t.contains name) (c w : Codec) (json : Json) :
    ((∃ i, s.decode c name json = .ok i) ↔ ∃ j, t.decode c name json = .ok j) ∧
      ∀ i j, s.decode c name json = .ok i → t.decode c name json = .ok j →
        i.toJson w = j.toJson w := by
  have coherent := reachable.coherent
  have closed := coherent.closed s (mem_of_get? left)
  have closed' := coherent.closed t (mem_of_get? right)
  have agree := coherent.agree (mem_of_get? left) (mem_of_get? right)
  refine ⟨⟨?_, ?_⟩, ?_⟩
  · rintro ⟨i, ok⟩
    obtain ⟨j, read, _⟩ := ModelSet.decode_simulates (w := w) closed closed' agree here there ok
    exact ⟨j, read⟩
  · rintro ⟨j, ok⟩
    obtain ⟨i, read, _⟩ :=
      ModelSet.decode_simulates (w := w) closed' closed agree.symm there here ok
    exact ⟨i, read⟩
  · intro i j ok ok'
    obtain ⟨k, read, written⟩ := ModelSet.decode_simulates closed closed' agree here there ok
    rw [ok'] at read
    obtain rfl := Except.ok.inj read
    exact written.symm

/-! ### Two APIs that declare pets -/

/-- The declarations of tags and of pets with the given properties. -/
def petDefinitions (properties : List (String × Property)) : List (String × Definition) :=
  [("Pet", { properties }),
    ("Tag", { properties := [("label", .mk (some "string") none none none none true false none)] })]

/-- The property of a pet's name. -/
def petName : String × Property :=
  ("name", .mk (some "string") none none none none true false none)

/-- The property of a pet's tags. -/
def petTags : String × Property :=
  ("tags", .mk (some "array") none none none
    (some (.mk none none (some "#/definitions/Tag") none none false false none)) false false none)

/-- The models of tags and of pets with the given fields. -/
def petModels (api : String) (fields : List Field) : ModelSet :=
  ⟨api, [{ name := "Tag", api, fields := [⟨"label", .string, .mandatory, none, false⟩] },
    { name := "Pet", api, fields }]⟩

/-- The models of an API in which a pet's name comes first. -/
def zoo : ModelSet :=
  petModels "zoo" [⟨"name", .string, .mandatory, none, false⟩,
    ⟨"tags", .list (.model "Tag"), .optional, none, false⟩]

/-- The models of an API in which a pet's tags come first. -/
def farm : ModelSet :=
  petModels "farm" [⟨"tags", .list (.model "Tag"), .optional, none, false⟩,
    ⟨"name", .string, .mandatory, none, false⟩]

theorem compileModels_zoo :
    compileModels "zoo" (petDefinitions [petName, petTags]) = .ok zoo := by
  have needs : dependencies (petDefinitions [petName, petTags]) =
      .ok [("Pet", ["Tag"]), ("Tag", [])] := rfl
  have order : orderModels (petDefinitions [petName, petTags]) = .ok ["Tag", "Pet"] := by
    rw [orderModels, needs]
    simp [bind, Except.bind, placeAll, placeReady]
  rw [compileModels, order]
  rfl

theorem compileModels_farm :
    compileModels "farm" (petDefinitions [petTags, petName]) = .ok farm := by
  have needs : dependencies (petDefinitions [petTags, petName]) =
      .ok [("Pet", ["Tag"]), ("Tag", [])] := rfl
  have order : orderModels (petDefinitions [petTags, petName]) = .ok ["Tag", "Pet"] := by
    rw [orderModels, needs]
    simp [bind, Except.bind, placeAll, placeReady]
  rw [compileModels, order]
  rfl

/-- A pet that one API reads is one for the other API, whatever the order of the fields. -/
theorem Registry.decode_agrees_pets :
    Registry.Reachable { sets := [zoo, farm] } ∧
      Registry.get? { sets := [zoo, farm] } "zoo" = some zoo ∧
      Registry.get? { sets := [zoo, farm] } "farm" = some farm ∧
      zoo.contains "Pet" ∧ farm.contains "Pet" ∧
      ∃ i j, zoo.decode .default "Pet"
          (.obj [("name", .str "Rex"), ("tags", .arr [.obj [("label", .str "old")]])]) = .ok i ∧
        farm.decode .default "Pet"
          (.obj [("name", .str "Rex"), ("tags", .arr [.obj [("label", .str "old")]])]) = .ok j ∧
        i.toJson .default = j.toJson .default := by
  have alone : Registry.Reachable { sets := [zoo] } := .register .empty compileModels_zoo rfl
  have reachable : Registry.Reachable { sets := [zoo, farm] } :=
    .register alone compileModels_farm rfl
  have left : Registry.get? { sets := [zoo, farm] } "zoo" = some zoo := rfl
  have right : Registry.get? { sets := [zoo, farm] } "farm" = some farm := rfl
  have known : zoo.contains "Pet" := rfl
  have known' : farm.contains "Pet" := rfl
  have exact := decode_agrees reachable left right known known'
    .default .default (.obj [("name", .str "Rex"), ("tags", .arr [.obj [("label", .str "old")]])])
  have read : ∃ i, zoo.decode .default "Pet"
      (.obj [("name", .str "Rex"), ("tags", .arr [.obj [("label", .str "old")]])]) = .ok i :=
    ⟨_, rfl⟩
  obtain ⟨i, here⟩ := read
  obtain ⟨j, there⟩ := exact.1.mp ⟨i, here⟩
  exact ⟨reachable, left, right, known, known', i, j, here, there, exact.2 i j here there⟩

end ApiContract
