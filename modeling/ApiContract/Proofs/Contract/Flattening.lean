import ApiContract.Proofs.Contract.Inheritance

/-!
# Flattened models

A compiled model lists all its fields, those of its ancestors included. The fields of the
parent come first and in their order, each replaced by the field of that name that the model
declares itself or else marked as inherited; whatever else the model declares comes after
them. Over a line of ancestors, what a model inherits is what some ancestor declares and no
model in between, the model itself included, declares again.

## Main definitions

* `Field.DeclaredBy`, `Definition.ownFields` — what a property and a definition declare
* `Field.descend` — a field of the parent as the child has it
* `Model.Extends` — a model has the fields of another and its own, in this order
* `ModelSet.Leaves` — a model takes the field of a name from its parent

## Main results

* `Model.foldl_putField` — what fields are when others are put among them one after another
* `Definition.model_extends` — the model of a definition extends that of its parent
* `ModelSet.mem_baseFields_iff` — what a model inherits, by the ancestor that declares it
* `compileModels_inheritance` — what the fields of compiled models are
-/

namespace ApiContract

open Relation

/-! ### Fields put one after another -/

namespace Model

variable {f : Field} {fields own : List Field}

theorem putField_of_not_mem (fresh : f.name ∉ fields.map Field.name) :
    putField f fields = fields ++ [f] := by
  induction fields with
  | nil => rfl
  | cons g rest ih =>
    rw [List.map_cons, List.mem_cons, not_or] at fresh
    rw [putField, if_neg (Ne.symm fresh.1), ih fresh.2, List.cons_append]

/-- A field that is put where another has its name takes the place of that one. -/
theorem putField_of_mem (distinct : (fields.map Field.name).Nodup)
    (taken : f.name ∈ fields.map Field.name) :
    putField f fields = fields.map fun g => if g.name = f.name then f else g := by
  induction fields with
  | nil => cases taken
  | cons g rest ih =>
    rw [List.map_cons, List.nodup_cons] at distinct
    rw [putField, List.map_cons]
    split
    · rename_i same
      have others : ∀ h ∈ rest, (if h.name = f.name then f else h) = h := fun h member =>
        if_neg fun again : h.name = f.name =>
          distinct.1 ((again.trans same.symm) ▸ List.mem_map_of_mem member)
      rw [List.map_congr_left others, List.map_id']
    · rename_i differ
      rw [List.map_cons, List.mem_cons] at taken
      rw [ih distinct.2 (taken.resolve_left (Ne.symm differ))]

/-- Fields that are put among others one after another replace those of their names, and the
rest of them is added at the end. -/
theorem foldl_putField (distinct : (fields.map Field.name).Nodup)
    (apart : (own.map Field.name).Nodup) :
    own.foldl (fun before f => putField f before) fields =
      fields.map (fun g => (own.find? fun f => f.name == g.name).getD g) ++
        own.filter fun f => f.name ∉ fields.map Field.name := by
  induction own generalizing fields with
  | nil => simp
  | cons f own ih =>
    rw [List.map_cons, List.nodup_cons] at apart
    rw [List.foldl_cons, ih (nodup_putField distinct) apart.2]
    have missing : own.find? (fun g => g.name == f.name) = none :=
      List.find?_eq_none.mpr fun g member same =>
        apart.1 (beq_iff_eq.mp same ▸ List.mem_map_of_mem member)
    by_cases taken : f.name ∈ fields.map Field.name
    · -- The names stay, and nothing that comes later replaces the field again.
      have names : (putField f fields).map Field.name = fields.map Field.name := by
        rw [putField_of_mem distinct taken, List.map_map]
        refine List.map_congr_left fun g _ => ?_
        by_cases same : g.name = f.name <;> simp [same]
      rw [names, List.filter_cons_of_neg (by simpa using taken), putField_of_mem distinct taken,
        List.map_map]
      congr 1
      refine List.map_congr_left fun g _ => ?_
      by_cases same : g.name = f.name
      · simp [same, missing]
      · simp [same, Ne.symm same]
    · rw [putField_of_not_mem taken, List.filter_cons_of_pos (by simpa using taken),
        List.map_append, List.append_assoc]
      congr 1
      · refine List.map_congr_left fun g member => ?_
        have differ : f.name ≠ g.name := fun same => taken (same ▸ List.mem_map_of_mem member)
        simp [differ]
      · have others : ∀ g ∈ own, (decide (g.name ∉ (fields ++ [f]).map Field.name)) =
            decide (g.name ∉ fields.map Field.name) := fun g member => by
          have differ : g.name ≠ f.name := fun same => apart.1 (same ▸ List.mem_map_of_mem member)
          simp [differ]
        rw [List.filter_congr others]
        simp [missing]

end Model

/-! ### The model of a definition -/

/-- A field that a property of a definition declares, in a model of the given name. -/
structure Field.DeclaredBy (f : Field) (p : String × Property) (model : String)
    (known : List String) : Prop where
  name : f.name = p.1
  type : p.2.fieldType known (model ++ "." ++ p.1) = .ok f.type
  presence : f.presence = .ofFlags p.2.isMandatory p.2.isNullable
  description : f.description = p.2.description
  own : f.inherited = false

/-- A field as a child has it that does not declare it again. -/
def Field.inherit (f : Field) : Field :=
  { f with inherited := true }

/-- A field of the parent as a child with these fields of its own has it. -/
def Field.descend (own : List Field) (f : Field) : Field :=
  (own.find? fun g => g.name == f.name).getD f.inherit

/-- A model has the fields of another in their order, each replaced by its own field of that
name or else inherited, and the rest of its own fields after them. -/
structure Model.Extends (m parent : Model) (own : List Field) : Prop where
  fields : m.fields = parent.fields.map (Field.descend own) ++
    own.filter fun f => f.name ∉ parent.fieldNames
  names : parent.fieldNames <+: m.fieldNames
  base : m.baseFields =
    (parent.fields.filter fun f => f.name ∉ own.map Field.name).map Field.inherit

section Descend

variable {f g : Field} {fields own : List Field}

theorem Field.descend_of_not_mem (absent : f.name ∉ own.map Field.name) :
    f.descend own = f.inherit := by
  have missing : own.find? (fun g => g.name == f.name) = none :=
    List.find?_eq_none.mpr fun g member same =>
      absent (beq_iff_eq.mp same ▸ List.mem_map_of_mem member)
  rw [descend, missing, Option.getD_none]

/-- A field that the child declares again is the child's own. -/
theorem Field.descend_of_mem (present : f.name ∈ own.map Field.name) :
    f.descend own ∈ own ∧ (f.descend own).name = f.name := by
  obtain ⟨g, member, same⟩ := List.mem_map.mp present
  have found : (own.find? fun g => g.name == f.name).isSome :=
    List.find?_isSome.mpr ⟨g, member, beq_iff_eq.mpr same⟩
  obtain ⟨h, found⟩ := Option.isSome_iff_exists.mp found
  rw [descend, found, Option.getD_some]
  exact ⟨List.mem_of_find?_eq_some found, by simpa using List.find?_some found⟩

theorem Field.name_descend (own : List Field) (f : Field) : (f.descend own).name = f.name := by
  by_cases present : f.name ∈ own.map Field.name
  · exact (descend_of_mem present).2
  · rw [descend_of_not_mem present, inherit]

/-- The fields of a parent with those of a child put among them one after another. -/
theorem Model.extends_of_foldl {m parent : Model} (distinct : parent.fieldNames.Nodup)
    (apart : (own.map Field.name).Nodup) (declared : ∀ f ∈ own, f.inherited = false)
    (put : own.foldl (fun before f => putField f before) (parent.fields.map Field.inherit) =
      m.fields) : m.Extends parent own := by
  have names : (parent.fields.map Field.inherit).map Field.name = parent.fieldNames := by
    rw [List.map_map, fieldNames]
    rfl
  rw [foldl_putField (names ▸ distinct) apart, names, List.map_map] at put
  have kept : ∀ f : Field, (f.descend own).inherited = decide (f.name ∉ own.map Field.name) := by
    intro f
    by_cases present : f.name ∈ own.map Field.name
    · rw [declared _ (Field.descend_of_mem present).1, decide_eq_false (not_not_intro present)]
    · rw [Field.descend_of_not_mem present, decide_eq_true present, Field.inherit]
  refine ⟨put.symm, ?_, ?_⟩
  · rw [fieldNames, fieldNames, ← put, List.map_append, List.map_map]
    have same : ∀ f ∈ parent.fields, f.name = (f.descend own).name := fun f _ =>
      (f.name_descend own).symm
    rw [List.map_congr_left same]
    exact List.prefix_append _ _
  · -- None of the own fields is inherited, neither in the place of another nor at the end.
    have rest : (own.filter fun f => f.name ∉ parent.fieldNames).filter (·.inherited) = [] :=
      List.filter_eq_nil_iff.mpr fun f member => by
        simp [declared f (List.mem_of_mem_filter member)]
    have heads : (parent.fields.map (Field.descend own)).filter (·.inherited) =
        (parent.fields.filter fun f => f.name ∉ own.map Field.name).map (Field.descend own) := by
      rw [List.filter_map]
      exact congrArg _ (List.filter_congr fun f _ => kept f)
    have left : m.baseFields = (parent.fields.map (Field.descend own)).filter (·.inherited) ++
        (own.filter fun f => f.name ∉ parent.fieldNames).filter (·.inherited) := by
      rw [baseFields, ← put]
      exact List.filter_append ..
    rw [left, rest, heads, List.append_nil]
    refine List.map_congr_left fun f member => Field.descend_of_not_mem ?_
    simpa using List.of_mem_filter member

end Descend

section Definitions

variable {d : Definition} {set : ModelSet} {name : String} {known : List String} {m base : Model}
  {properties : List (String × Property)} {own : List Field}

theorem Field.declaredBy_iff {p : String × Property} {f : Field} :
    p.2.field name p.1 known = .ok f ↔ f.DeclaredBy p name known := by
  rw [Property.field, bind_eq_ok]
  constructor
  · rintro ⟨type, typed, ok⟩
    obtain rfl := Except.ok.inj ok
    exact ⟨rfl, typed, rfl, rfl, rfl⟩
  · rintro ⟨named, typed, presence, description, own⟩
    refine ⟨f.type, typed, congrArg Except.ok ?_⟩
    rw [← named, ← presence, ← description, ← own]

/-- The fields that the properties of a definition declare, in their order. -/
def Definition.ownFields (d : Definition) (name : String) (known : List String) :
    Except ContractError (List Field) :=
  d.properties.mapM fun p => p.2.field name p.1 known

theorem Definition.ownFields_eq_ok_iff : d.ownFields name known = .ok own ↔
    List.Forall₂ (fun p f => Field.DeclaredBy f p name known) d.properties own := by
  rw [ownFields, mapM_eq_ok_iff]
  simp only [Field.declaredBy_iff]

/-- Adding the fields of properties one after another puts them among those that are there. -/
theorem Model.exists_of_foldlM_field
    (ok : properties.foldlM (fun m (p : String × Property) => do
      return m.withField (← p.2.field name p.1 known)) base = .ok m) :
    ∃ own, properties.mapM (fun p => p.2.field name p.1 known) = .ok own ∧
      own.foldl (fun before f => putField f before) base.fields = m.fields := by
  induction properties generalizing base with
  | nil =>
    obtain rfl := Except.ok.inj ok
    exact ⟨[], rfl, rfl⟩
  | cons p rest ih =>
    rw [List.foldlM_cons] at ok
    obtain ⟨next, first, later⟩ := bind_eq_ok.mp ok
    obtain ⟨f, here, first⟩ := bind_eq_ok.mp first
    obtain rfl := Except.ok.inj first
    obtain ⟨own, there, put⟩ := ih later
    refine ⟨f :: own, ?_, put⟩
    rw [List.mapM_cons, here]
    exact bind_eq_ok.mpr ⟨f, rfl, bind_eq_ok.mpr ⟨own, there, rfl⟩⟩

/-- The model of a definition has the fields that the definition declares, after those of its
parent or in their place. -/
theorem Definition.model_extends (distinct : ∀ n ∈ set.models, n.fieldNames.Nodup)
    (apart : (d.properties.map Prod.fst).Nodup) (ok : d.model name known set = .ok m) :
    ∃ own, d.ownFields name known = .ok own ∧ (d.parentName = none → m.fields = own) ∧
      ∀ parent, d.parentName = some parent → ∃ n, set.get? parent = some n ∧ m.Extends n own := by
  obtain ⟨base, first, ok⟩ := bind_eq_ok.mp ok
  obtain ⟨own, declared, put⟩ := Model.exists_of_foldlM_field ok
  have names : own.map Field.name = d.properties.map Prod.fst :=
    map_of_mapM (fun _ _ _ declares => (Field.declaredBy_iff.mp declares).name) declared
  have fresh : ∀ f ∈ own, f.inherited = false := fun f member => by
    obtain ⟨p, _, declares⟩ := (mem_mapM_iff declared).mp member
    exact (Field.declaredBy_iff.mp declares).own
  rcases Definition.base_cases first with ⟨none, rfl⟩ | ⟨n, some, found, rfl⟩
  · have empty : (([] : List Field).map Field.name).Nodup := List.nodup_nil
    have alone := Model.foldl_putField empty (names ▸ apart)
    refine ⟨own, declared, fun _ => ?_, fun parent named => ?_⟩
    · rw [← put, Model.empty, alone]
      simp
    · rw [none] at named
      cases named
  · refine ⟨own, declared, fun none => ?_, fun parent named => ?_⟩
    · rw [some] at none
      cases none
    · obtain rfl := Option.some.inj (some.symm.trans named)
      rw [Model.fields_extend_empty] at put
      exact ⟨n, found, Model.extends_of_foldl (distinct n (ModelSet.get?_eq_some found).1)
        (names ▸ apart) fresh put⟩

end Definitions

/-! ### Flattened models -/

/-- A model of a document has the fields that its definition declares, in their order; if it
has a parent, they stand after the fields of the parent, which is one of the given models, or
in their place. -/
structure Model.Flattened (m : Model) (definitions : List (String × Definition))
    (models : List Model) (d : Definition) (own : List Field) : Prop where
  defined : (m.name, d) ∈ definitions
  declared : List.Forall₂
    (fun p f => Field.DeclaredBy f p m.name (definitions.map Prod.fst)) d.properties own
  parent : m.parent = d.parentName
  alone : m.parent = none → m.fields = own
  above : ∀ parent, m.parent = some parent → ∃ n ∈ models, n.name = parent ∧ m.Extends n own

/-- A field is one that the definition of a name declares. -/
def Field.OwnOf (f : Field) (definitions : List (String × Definition)) (name : String) : Prop :=
  ∃ d p, (name, d) ∈ definitions ∧ p ∈ d.properties ∧
    f.DeclaredBy p name (definitions.map Prod.fst)

/-- A model leaves the field of a name to its parent: it does not declare it itself. -/
def ModelSet.Leaves (s : ModelSet) (definitions : List (String × Definition))
    (field child parent : String) : Prop :=
  s.ParentOf child parent ∧ ∀ d, (child, d) ∈ definitions → field ∉ d.properties.map Prod.fst

section Flattened

variable {definitions : List (String × Definition)} {d : Definition} {own : List Field}
  {models : List Model} {m n : Model} {f g : Field} {s : ModelSet}

theorem Model.mem_baseFields_iff : f ∈ m.baseFields ↔ f ∈ m.fields ∧ f.inherited = true :=
  List.mem_filter

namespace Model.Flattened

theorem mono (flat : m.Flattened definitions models d own) {more : List Model}
    (within : models ⊆ more) : m.Flattened definitions more d own :=
  { flat with above := fun parent named => (flat.above parent named).imp fun _ holds =>
      ⟨within holds.1, holds.2⟩ }

theorem names (flat : m.Flattened definitions models d own) :
    own.map Field.name = d.properties.map Prod.fst :=
  map_of_mapM (fun _ _ _ declares => (Field.declaredBy_iff.mp declares).name)
    (Definition.ownFields_eq_ok_iff.mpr flat.declared)

theorem definition_eq (flat : m.Flattened definitions models d own)
    (distinct : (definitions.map Prod.fst).Nodup) {e : Definition}
    (defined : (m.name, e) ∈ definitions) : e = d :=
  Option.some.inj ((Members.lookup_of_mem distinct defined).symm.trans
    (Members.lookup_of_mem distinct flat.defined))

theorem mem_own_iff (flat : m.Flattened definitions models d own)
    (distinct : (definitions.map Prod.fst).Nodup) : f ∈ own ↔ f.OwnOf definitions m.name := by
  have listed := mem_mapM_iff (b := f) (Definition.ownFields_eq_ok_iff.mpr flat.declared)
  simp only [Field.declaredBy_iff] at listed
  rw [listed]
  constructor
  · exact fun ⟨p, member, declares⟩ => ⟨d, p, flat.defined, member, declares⟩
  · rintro ⟨e, p, defined, member, declares⟩
    obtain rfl := flat.definition_eq distinct defined
    exact ⟨p, member, declares⟩

/-- The fields that are not inherited are those that the definition declares. -/
theorem ownOf_of_mem (flat : m.Flattened definitions models d own)
    (distinct : (definitions.map Prod.fst).Nodup) (member : f ∈ m.fields)
    (here : f.inherited = false) : f.OwnOf definitions m.name := by
  refine (flat.mem_own_iff distinct).mp ?_
  cases named : m.parent with
  | none => exact flat.alone named ▸ member
  | some parent =>
    obtain ⟨n, _, _, extended⟩ := flat.above parent named
    rw [extended.fields, List.mem_append, List.mem_map] at member
    rcases member with ⟨g, _, rfl⟩ | rest
    · by_cases again : g.name ∈ own.map Field.name
      · exact (Field.descend_of_mem again).1
      · rw [Field.descend_of_not_mem again] at here
        cases here
    · exact List.mem_of_mem_filter rest

theorem mem_fields (flat : m.Flattened definitions models d own)
    (apart : (d.properties.map Prod.fst).Nodup) (member : f ∈ own) : f ∈ m.fields := by
  cases named : m.parent with
  | none => exact flat.alone named ▸ member
  | some parent =>
    obtain ⟨n, _, _, extended⟩ := flat.above parent named
    rw [extended.fields, List.mem_append]
    by_cases taken : f.name ∈ n.fieldNames
    · -- It stands in the place of the field of the parent that has its name.
      obtain ⟨g, before, same⟩ := List.mem_map.mp taken
      have again : g.name ∈ own.map Field.name := same ▸ List.mem_map_of_mem member
      obtain ⟨own', named'⟩ := Field.descend_of_mem again
      refine .inl (List.mem_map.mpr ⟨g, before, ?_⟩)
      exact List.inj_on_of_nodup_map (flat.names ▸ apart) own' member (named'.trans same)
    · exact .inr (List.mem_filter.mpr ⟨member, by simpa using taken⟩)

end Model.Flattened

/-- Each model of a compiled set is flattened over the models before it. -/
theorem ModelSet.InOrder.flattened (inOrder : s.InOrder definitions) (closed : s.Closed)
    (apart : ∀ p ∈ definitions, (p.2.properties.map Prod.fst).Nodup) {before after : List Model}
    (split : s.models = before ++ m :: after) :
    ∃ d own, m.Flattened definitions before d own := by
  obtain ⟨d, found, compiled⟩ := inOrder before m after split
  have defined := Members.mem_of_lookup found
  have distinct : ∀ n ∈ before, n.fieldNames.Nodup := fun n member =>
    (closed n (split ▸ List.mem_append_left _ member)).distinct
  obtain ⟨own, declared, alone, above⟩ :=
    Definition.model_extends distinct (apart _ defined) compiled
  obtain ⟨_, parent, _⟩ := Definition.model_inherits compiled
  refine ⟨d, own, defined, Definition.ownFields_eq_ok_iff.mp declared, parent, parent ▸ alone,
    fun name named => ?_⟩
  obtain ⟨n, found, extended⟩ := above name (parent ▸ named)
  obtain ⟨member, same⟩ := get?_eq_some found
  exact ⟨n, member, same, extended⟩

end Flattened

/-! ### Lines of ancestors -/

/-- The models of a set are flattened, and found under their names. -/
structure ModelSet.Flattened (s : ModelSet) (definitions : List (String × Definition)) : Prop where
  distinct : (definitions.map Prod.fst).Nodup
  apart : ∀ p ∈ definitions, (p.2.properties.map Prod.fst).Nodup
  once : s.names.Nodup
  models : ∀ before m after, s.models = before ++ m :: after →
    ∃ d own, m.Flattened definitions before d own

namespace ModelSet.Flattened

variable {definitions : List (String × Definition)} {s : ModelSet} {m n : Model} {f g : Field}
  {name a : String}

theorem exists_flattened (flat : s.Flattened definitions) (member : m ∈ s.models) :
    ∃ d own, m.Flattened definitions s.models d own := by
  obtain ⟨before, after, split⟩ := List.append_of_mem member
  obtain ⟨d, own, holds⟩ := flat.models before m after split
  exact ⟨d, own, holds.mono (split ▸ List.subset_append_left _ _)⟩

theorem exists_parent (flat : s.Flattened definitions) (member : m ∈ s.models)
    (line : s.ParentOf m.name a) : ∃ n ∈ s.models, n.name = a ∧
      ∃ d own, m.Flattened definitions s.models d own ∧ m.Extends n own := by
  obtain ⟨k, found, named⟩ := line
  obtain rfl := Option.some.inj ((get?_of_mem flat.once member).symm.trans found)
  obtain ⟨d, own, holds⟩ := flat.exists_flattened member
  obtain ⟨n, there, same, extended⟩ := holds.above a named
  exact ⟨n, there, same, d, own, holds, extended⟩

/-- All ancestors of a model are in the set, and the model has fields of the names of theirs. -/
theorem exists_ancestor (flat : s.Flattened definitions) (member : m ∈ s.models)
    (line : TransGen s.ParentOf m.name a) :
    ∃ n, s.get? a = some n ∧ n.fieldNames ⊆ m.fieldNames := by
  have step : ∀ k ∈ s.models, ∀ b, s.ParentOf k.name b →
      ∃ n, s.get? b = some n ∧ n.fieldNames ⊆ k.fieldNames := by
    intro k among b above
    obtain ⟨n, there, rfl, d, own, _, extended⟩ := flat.exists_parent among above
    exact ⟨n, get?_of_mem flat.once there, extended.names.subset⟩
  induction line with
  | single first => exact step m member _ first
  | tail _ last ih =>
    obtain ⟨k, found, within⟩ := ih
    obtain ⟨among, rfl⟩ := get?_eq_some found
    obtain ⟨n, above, further⟩ := step k among _ last
    exact ⟨n, above, List.Subset.trans further within⟩

/-- A model inherits the fields of a name that it leaves to its parent. -/
theorem inherit_of_leaves (flat : s.Flattened definitions) (member : m ∈ s.models)
    (leaves : s.Leaves definitions name m.name a) : ∃ n ∈ s.models, n.name = a ∧
      ∀ f ∈ n.fields, f.name = name → f.inherit ∈ m.baseFields := by
  obtain ⟨line, absent⟩ := leaves
  obtain ⟨n, there, same, d, own, holds, extended⟩ := flat.exists_parent member line
  refine ⟨n, there, same, fun f has named => ?_⟩
  rw [extended.base]
  refine List.mem_map_of_mem (List.mem_filter.mpr ⟨has, ?_⟩)
  simpa [holds.names, named] using absent d holds.defined

/-- What a model inherits is what some ancestor declares and nothing in between again. -/
theorem mem_baseFields_iff (flat : s.Flattened definitions) (member : m ∈ s.models) :
    f ∈ m.baseFields ↔ ∃ a, ∃ g : Field, TransGen (s.Leaves definitions f.name) m.name a ∧
      g.OwnOf definitions a ∧ f = g.inherit := by
  constructor
  · -- The parent comes before, so what it inherits has been traced to its ancestor already.
    refine models_induction (fun m => ∀ f ∈ m.baseFields, ∃ a, ∃ g : Field,
      TransGen (s.Leaves definitions f.name) m.name a ∧ g.OwnOf definitions a ∧ f = g.inherit)
      (fun before m after split earlier f inherited => ?_) m member f
    have among : m ∈ s.models := split ▸ List.mem_append_right _ List.mem_cons_self
    obtain ⟨d, own, holds⟩ := flat.models before m after split
    cases named : m.parent with
    | none =>
      rw [Model.mem_baseFields_iff, holds.alone named, holds.mem_own_iff flat.distinct] at inherited
      obtain ⟨⟨_, _, _, _, declares⟩, marked⟩ := inherited
      rw [declares.own] at marked
      cases marked
    | some parent =>
      obtain ⟨n, above, rfl, extended⟩ := holds.above parent named
      have there : n ∈ s.models := split ▸ List.mem_append_left _ above
      rw [extended.base] at inherited
      obtain ⟨g, has, rfl⟩ := List.mem_map.mp inherited
      obtain ⟨has, absent⟩ := List.mem_filter.mp has
      have leaves : s.Leaves definitions g.name m.name n.name := by
        refine ⟨⟨m, get?_of_mem flat.once among, named⟩, fun e defined => ?_⟩
        obtain rfl := holds.definition_eq flat.distinct defined
        simpa [holds.names] using absent
      cases marked : g.inherited with
      | false =>
        obtain ⟨d', own', holds'⟩ := flat.exists_flattened there
        exact ⟨n.name, g, .single leaves, holds'.ownOf_of_mem flat.distinct has marked, rfl⟩
      | true =>
        obtain ⟨a, h, line, declared, rfl⟩ :=
          earlier n above g (Model.mem_baseFields_iff.mpr ⟨has, marked⟩)
        exact ⟨a, h, .head leaves line, declared, rfl⟩
  · rintro ⟨a, g, line, declared, rfl⟩
    generalize same : m.name = child at line
    induction line using TransGen.head_induction_on generalizing m with
    | single leaves =>
      obtain ⟨n, there, rfl, inherits⟩ := flat.inherit_of_leaves member (same ▸ leaves)
      obtain ⟨d, own, holds⟩ := flat.exists_flattened there
      have listed := (holds.mem_own_iff flat.distinct).mpr declared
      exact inherits g (holds.mem_fields (flat.apart _ holds.defined) listed) rfl
    | head leaves _ ih =>
      -- What is inherited once is the same when it is inherited again.
      obtain ⟨n, there, rfl, inherits⟩ := flat.inherit_of_leaves member (same ▸ leaves)
      have further := Model.mem_baseFields_iff.mp (ih there rfl)
      exact inherits g.inherit further.1 rfl

end ModelSet.Flattened

/-- A compiled set is flattened. -/
theorem compileModels_flattened {definitions : List (String × Definition)} {api : String}
    {s : ModelSet} (distinct : (definitions.map Prod.fst).Nodup)
    (apart : ∀ p ∈ definitions, (p.2.properties.map Prod.fst).Nodup)
    (compiled : compileModels api definitions = .ok s) : s.Flattened definitions where
  distinct := distinct
  apart := apart
  once := (names_of_compileModels distinct compiled).nodup_iff.mpr distinct
  models _ _ _ split := (compileModels_inOrder distinct compiled).flattened
    (compileModels_closed compiled).1 apart split

/-- The fields of every model of a document that compiles have distinct names. They are those
that its definition declares, one for each property, in the order of the properties and not
marked as inherited; and, if the model has a parent, before them those of the parent in their
order, marked as inherited, except that a declared field of the same name stands in the place
of the parent's. So the model has a field for each field of each of its ancestors, and it
inherits just what an ancestor declares that neither it nor a model in between declares
again. -/
theorem compileModels_inheritance {api : String} {definitions : List (String × Definition)}
    {s : ModelSet} (distinct : (definitions.map Prod.fst).Nodup)
    (apart : ∀ p ∈ definitions, (p.2.properties.map Prod.fst).Nodup)
    (compiled : compileModels api definitions = .ok s) {m : Model} (member : m ∈ s.models) :
    m.fieldNames.Nodup ∧
      (∃ d own, m.Flattened definitions s.models d own) ∧
      (∀ a, TransGen s.ParentOf m.name a →
        ∃ n, s.get? a = some n ∧ n.fieldNames ⊆ m.fieldNames) ∧
      ∀ f, f ∈ m.baseFields ↔ ∃ a, ∃ g : Field,
        TransGen (s.Leaves definitions f.name) m.name a ∧ g.OwnOf definitions a ∧
          f = g.inherit := by
  have flat := compileModels_flattened distinct apart compiled
  exact ⟨((compileModels_closed compiled).1 m member).distinct, flat.exists_flattened member,
    fun _ line => flat.exists_ancestor member line, fun _ => flat.mem_baseFields_iff member⟩

/-! ### A fleet -/

/-- Taxis are cars and cars are vehicles; each declares again a field of those above. -/
def fleetDefinitions : List (String × Definition) :=
  [("Taxi", { parent := some "fleet.Car",
              properties := [("licence", .mk (some "string") none none none none true false none),
                ("plate", .mk (some "string") none none none none false false none)] }),
    ("Car", { parent := some "Vehicle",
              properties := [("seats", .mk (some "integer") none none none none true false none),
                ("weight", .mk (some "number") none none none none false true none)] }),
    ("Vehicle", { properties :=
                    [("plate", .mk (some "string") none none none none true false none),
                      ("weight", .mk (some "integer") none none none none true false none)] })]

/-- The model of taxis, with a weight as cars have it. -/
def taxi : Model where
  name := "Taxi"
  api := "fleet"
  parent := some "Car"
  fields := [⟨"plate", .string, .optional, none, false⟩, ⟨"weight", .number, .nullable, none, true⟩,
    ⟨"seats", .integer, .mandatory, none, true⟩, ⟨"licence", .string, .mandatory, none, false⟩]

/-- The models of the fleet. -/
def fleet : ModelSet where
  api := "fleet"
  models :=
    [{ name := "Vehicle", api := "fleet",
       fields := [⟨"plate", .string, .mandatory, none, false⟩,
         ⟨"weight", .integer, .mandatory, none, false⟩] },
      { name := "Car", api := "fleet", parent := some "Vehicle",
        fields := [⟨"plate", .string, .mandatory, none, true⟩,
          ⟨"weight", .number, .nullable, none, false⟩,
          ⟨"seats", .integer, .mandatory, none, false⟩] },
      taxi]

/-- A taxi has all fields of a vehicle; it inherits the weight that is declared for cars. -/
theorem compileModels_inheritance_taxi :
    (fleetDefinitions.map Prod.fst).Nodup ∧
      (∀ p ∈ fleetDefinitions, (p.2.properties.map Prod.fst).Nodup) ∧
      compileModels "fleet" fleetDefinitions = .ok fleet ∧ taxi ∈ fleet.models ∧
      taxi.fieldNames.Nodup ∧
      (∃ n, fleet.get? "Vehicle" = some n ∧ n.fieldNames ⊆ taxi.fieldNames) ∧
      ∃ a, ∃ g : Field, TransGen (fleet.Leaves fleetDefinitions "weight") "Taxi" a ∧
        g.OwnOf fleetDefinitions a ∧ ⟨"weight", .number, .nullable, none, true⟩ = g.inherit := by
  have distinct : (fleetDefinitions.map Prod.fst).Nodup := by decide
  have apart : ∀ p ∈ fleetDefinitions, (p.2.properties.map Prod.fst).Nodup := by
    simp [fleetDefinitions]
  have needs : dependencies fleetDefinitions =
      .ok [("Taxi", ["Car"]), ("Car", ["Vehicle"]), ("Vehicle", [])] := rfl
  have order : orderModels fleetDefinitions = .ok ["Vehicle", "Car", "Taxi"] := by
    rw [orderModels, needs]
    simp [bind, Except.bind, placeAll, placeReady]
  have compiled : compileModels "fleet" fleetDefinitions = .ok fleet := by
    rw [compileModels, order]
    rfl
  have member : taxi ∈ fleet.models := by decide
  obtain ⟨once, _, ancestors, inherited⟩ :=
    compileModels_inheritance distinct apart compiled member
  have line : TransGen fleet.ParentOf taxi.name "Vehicle" :=
    .tail (.single ⟨taxi, rfl, rfl⟩) ⟨fleet.models[1], rfl, rfl⟩
  refine ⟨distinct, apart, compiled, member, once, ancestors "Vehicle" line, ?_⟩
  exact (inherited ⟨"weight", .number, .nullable, none, true⟩).mp (by decide)

end ApiContract
