import ApiContract.Proofs.Model.WellTyped

/-!
# Forms with files

The files of a form go into the slots of their fields before its texts are read, and a text
that has the name of a file is not read at all. So a field holds the content of its file, if it
was sent one, and otherwise what its text is read as. A file without a field of its name is
dropped whatever becomes of undeclared texts, and a text of the same name is dropped with it.

## Main definitions

* `Instance.withFiles` — an instance with files in the slots of their names
* `ModelSet.FormFilled` — an instance that holds the files and the texts of a form

## Main results

* `ModelSet.setFiles_eq_ok_iff` — when files can be put in place
* `ModelSet.decodeForm_eq_ok_iff` — when a form is read, and as what
* `ModelSet.decodeForm_eq_declared` — files without a field might as well not be sent
* `ModelSet.decodeForm_files` — what the files and the texts of a form decide
-/

namespace ApiContract

/-! ### Files in their slots -/

/-- An instance with the files of declared fields in the slots of their names. -/
def Instance.withFiles (i : Instance) : List (String × List UInt8) → Instance
  | [] => i
  | (name, content) :: rest =>
    if (i.model.field? name).isSome then (i.put name (.bytes content)).withFiles rest
    else i.withFiles rest

namespace Instance

variable {i j : Instance} {files : List (String × List UInt8)} {name key : String}

@[simp] theorem model_withFiles (i : Instance) (files : List (String × List UInt8)) :
    (i.withFiles files).model = i.model := by
  induction files generalizing i with
  | nil => rfl
  | cons file rest ih =>
    rw [withFiles]
    split
    · exact ih (i.put file.1 (.bytes file.2))
    · exact ih i

theorem sorted_withFiles (sorted : Members.Sorted i.slots) :
    Members.Sorted (i.withFiles files).slots := by
  induction files generalizing i with
  | nil => exact sorted
  | cons file rest ih =>
    rw [withFiles]
    split
    · exact ih (sorted.insert file.1 (.bytes file.2))
    · exact ih sorted

/-- A slot holds the file of its name, if its field is declared, and is as before otherwise. -/
theorem get?_withFiles (once : (Members.keys files).Nodup) :
    (i.withFiles files).get? key =
      (if (i.model.field? key).isSome then (Members.lookup key files).map .bytes else none).or
        (i.get? key) := by
  induction files generalizing i with
  | nil => simp [withFiles]
  | cons file rest ih =>
    obtain ⟨name, content⟩ := file
    rw [Members.keys_cons, List.nodup_cons] at once
    have same : (i.put name (.bytes content)).model = i.model := rfl
    rw [withFiles, Members.lookup_cons]
    by_cases here : name = key
    · subst here
      -- No other file has the name, so what is put for this one stays.
      have fresh : Members.lookup name rest = none := Members.lookup_eq_none_iff.mpr once.1
      split
      · simp [ih once.2, fresh]
      · rename_i undeclared
        simp [ih once.2, undeclared]
    · split
      · simp [ih once.2, here, same]
      · simp [ih once.2]

theorem get?_withFiles_of_mem {m : Model} (distinct : m.fieldNames.Nodup)
    (once : (Members.keys files).Nodup) {f : Field} (member : f ∈ m.fields) :
    (({ model := m } : Instance).withFiles files).get? f.name =
      (Members.lookup f.name files).map .bytes := by
  have declared : (m.field? f.name).isSome := Model.field?_of_mem distinct member ▸ rfl
  rw [get?_withFiles once, if_pos declared]
  exact Option.or_none

theorem get?_withFiles_of_not_mem {m : Model} (once : (Members.keys files).Nodup)
    (absent : key ∉ m.fieldNames) :
    (({ model := m } : Instance).withFiles files).get? key = none := by
  have undeclared : ¬ (m.field? key).isSome := mt Model.isSome_field?_iff.mp absent
  rw [get?_withFiles once, if_neg undeclared]
  rfl

/-- Setting a field to the content of a file succeeds when its type is that of bytes. -/
theorem set_bytes_eq_ok_iff {content : List UInt8} : i.set name (.bytes content) = .ok j ↔
    (∃ f, i.model.field? name = some f ∧ f.type = .bytes) ∧ i.put name (.bytes content) = j := by
  have spec := assign_spec i name (.bytes content)
  rw [set, Change.result_eq_ok_iff]
  generalize (assign name (.bytes content)).on i = ran at spec
  -- Content is not null, so that the field is unknown, of another type, or filled.
  cases spec with
  | undeclared unknown => simp [unknown]
  | missing _ _ null => cases null
  | nulled _ _ null => cases null
  | emptied _ _ null => cases null
  | mismatched f declared _ differs =>
    have other : f.type ≠ .bytes := fun same => differs (by rw [same]; rfl)
    simp [declared, other]
  | filled f declared fits =>
    have bytes : f.type = .bytes := by
      cases type : f.type <;> rw [type] at fits <;> first | rfl | cases fits
    simp [declared, bytes, widen]

end Instance

namespace ModelSet

variable {s : ModelSet} {c : Codec} {name : String} {m : Model} {i j : Instance}
  {files : List (String × List UInt8)} {members : List (String × Json)}

/-- Files are put in place unless one of them has a field of another type than bytes. -/
theorem setFiles_eq_ok_iff : setFiles files i = .ok j ↔
    (∀ p ∈ files, ∀ f, i.model.field? p.1 = some f → f.type = .bytes) ∧ i.withFiles files = j := by
  induction files generalizing i with
  | nil => simp [setFiles, Instance.withFiles]
  | cons file rest ih =>
    obtain ⟨name, content⟩ := file
    rw [setFiles, Instance.withFiles, List.forall_mem_cons]
    cases declared : i.model.field? name with
    | none => simp [ih]
    | some f =>
      simp only [Option.isSome_some, if_true, bind_eq_ok, Instance.set_bytes_eq_ok_iff, ih]
      constructor
      · rintro ⟨_, ⟨⟨g, same, bytes⟩, rfl⟩, each, rfl⟩
        rw [declared] at same
        exact ⟨⟨fun h named => Option.some.inj (same.symm.trans named) ▸ bytes, each⟩, rfl⟩
      · rintro ⟨⟨here, each⟩, rfl⟩
        exact ⟨_, ⟨⟨f, declared, here f rfl⟩, rfl⟩, each, rfl⟩

/-! ### Texts that are left -/

/-- The members of a form that no file has the name of. -/
def leftTexts (files : List (String × List UInt8)) (members : List (String × Json)) :
    List (String × Json) :=
  files.foldl (fun members file => Members.erase file.1 members) members

theorem withoutFiles_obj : withoutFiles files (.obj members) = .obj (leftTexts files members) :=
  rfl

theorem lookup_leftTexts (key : String) (files : List (String × List UInt8))
    (members : List (String × Json)) :
    Members.lookup key (leftTexts files members) =
      if key ∈ Members.keys files then none else Members.lookup key members := by
  rw [leftTexts]
  induction files generalizing members with
  | nil => simp [Members.keys]
  | cons file rest ih =>
    rw [List.foldl_cons, ih, Members.lookup_erase]
    by_cases here : file.1 = key
    · simp [here]
    · simp [here, Ne.symm here]

theorem mem_keys_leftTexts {key : String} : key ∈ Members.keys (leftTexts files members) ↔
    key ∈ Members.keys members ∧ key ∉ Members.keys files := by
  rw [← Members.isSome_lookup_iff, lookup_leftTexts]
  by_cases taken : key ∈ Members.keys files
  · simp [taken]
  · simp [taken, Members.isSome_lookup_iff]

theorem sorted_leftTexts (sorted : Members.Sorted members) :
    Members.Sorted (leftTexts files members) := by
  rw [leftTexts]
  induction files generalizing members with
  | nil => exact sorted
  | cons file rest ih => exact ih (sorted.erase file.1)

/-! ### What a form is read as -/

/-- An instance holds the files of a form in the slots of their fields, and in each other slot
what the field is filled with by its text. -/
structure FormFilled (s : ModelSet) (c : Codec) (m : Model) (members : List (String × Json))
    (files : List (String × List UInt8)) (i : Instance) : Prop where
  model : i.model = m
  sorted : Members.Sorted i.slots
  sent : ∀ f ∈ m.fields, ∀ content, Members.lookup f.name files = some content →
    f.type = .bytes ∧ i.get? f.name = some (.bytes content)
  read : ∀ f ∈ m.fields, f.name ∉ Members.keys files →
    Fills s c .lenient f ("$" ++ "." ++ f.name) false (Members.lookup f.name members)
      (i.get? f.name)
  others : ∀ key, key ∉ m.fieldNames → i.get? key = none

/-- A slot that is filled on top of the files holds the file of its name, or else what the field
is filled with by its text. -/
theorem readNamed_leftTexts_iff (distinct : m.fieldNames.Nodup)
    (once : (Members.keys files).Nodup) {f : Field} (member : f ∈ m.fields) {path : String}
    {slot? : Option Value} :
    (∃ v?, readNamed path (memberReaders s c .lenient (leftTexts files members))
        (({ model := m } : Instance).withFiles files) f = .ok v? ∧
        slot? = v?.or ((({ model := m } : Instance).withFiles files).get? f.name)) ↔
      (∀ content, Members.lookup f.name files = some content → slot? = some (.bytes content)) ∧
        (f.name ∉ Members.keys files → Fills s c .lenient f (path ++ "." ++ f.name) false
          (Members.lookup f.name members) slot?) := by
  simp only [readNamed_eq_ok_iff, lookup_leftTexts, Instance.isSet,
    Instance.get?_withFiles_of_mem distinct once member]
  -- A field that was sent a file has lost its text, and is not missed as its slot is filled.
  cases held : Members.lookup f.name files with
  | none =>
    have unsent : f.name ∉ Members.keys files := Members.lookup_eq_none_iff.mp held
    simp [unsent]
  | some content =>
    have sent : f.name ∈ Members.keys files := Members.isSome_lookup_iff.mp (held ▸ rfl)
    simp only [sent, if_true, Option.map_some, Option.isSome_some, not_true_eq_false,
      IsEmpty.forall_iff, and_true, Option.some.injEq, forall_eq']
    constructor
    · rintro ⟨v?, fills, same⟩
      cases fills with
      | absent => exact same
    · intro same
      exact ⟨none, .absent fun _ => rfl, same⟩

/-- A form is read in two steps: its files are put in place, then its texts are read on top of
them. -/
theorem decodeForm_eq_readObject_ok_iff (found : s.get? name = some m) :
    s.decodeForm c name (.obj members) files = .ok i ↔
      (∀ p ∈ files, ∀ f, m.field? p.1 = some f → f.type = .bytes) ∧
        readObject c "$" (memberReaders s c .lenient (leftTexts files members))
          (({ model := m } : Instance).withFiles files) = .ok i := by
  have empty : s.instance? name = .ok { model := m } := instance?_eq_ok_iff.mpr ⟨m, found, rfl⟩
  rw [decodeForm, empty]
  change (setFiles files { model := m } >>= fun preset =>
    s.readInto c .lenient (withoutFiles files (.obj members)) preset) = .ok i ↔ _
  simp only [bind_eq_ok, setFiles_eq_ok_iff]
  constructor
  · rintro ⟨_, ⟨bytes, rfl⟩, read⟩
    exact ⟨bytes, read⟩
  · rintro ⟨bytes, read⟩
    exact ⟨_, ⟨bytes, rfl⟩, read⟩

/-- A form is read when each text without a file has a field, should undeclared texts be
rejected, each file with a field has one of bytes, and each other field can be filled. -/
theorem decodeForm_eq_ok_iff (found : s.get? name = some m) (distinct : m.fieldNames.Nodup)
    (once : (Members.keys files).Nodup) : s.decodeForm c name (.obj members) files = .ok i ↔
      (c.unknownFields = .reject → ∀ key ∈ Members.keys members, key ∉ Members.keys files →
        key ∈ m.fieldNames) ∧ FormFilled s c m members files i := by
  have sorted : Members.Sorted (({ model := m } : Instance).withFiles files).slots :=
    Instance.sorted_withFiles Members.Sorted.nil
  rw [decodeForm_eq_readObject_ok_iff found,
    readObject_eq_ok_iff (by rwa [Instance.model_withFiles]) sorted, Instance.model_withFiles,
    keys_memberReaders]
  constructor
  · rintro ⟨bytes, declared, filled⟩
    have slots := fun f member =>
      (readNamed_leftTexts_iff distinct once member).mp (filled.slots f member)
    refine ⟨fun reject key member unsent => ?_, filled.model.trans (Instance.model_withFiles ..),
      filled.sorted, fun f member content held => ?_, fun f member => (slots f member).2,
      fun key absent => ?_⟩
    · exact declared reject key (mem_keys_leftTexts.mpr ⟨member, unsent⟩)
    · exact ⟨bytes _ (Members.mem_of_lookup held) f (Model.field?_of_mem distinct member),
        (slots f member).1 content held⟩
    · exact (filled.others key absent).trans (Instance.get?_withFiles_of_not_mem once absent)
  · rintro ⟨declared, form⟩
    refine ⟨fun p member f named => ?_, fun reject key member => ?_,
      form.model.trans (Instance.model_withFiles { model := m } files).symm, form.sorted,
      fun f member => ?_, fun key absent => ?_⟩
    · obtain ⟨field, same⟩ := Model.field?_eq_some named
      exact (form.sent f field p.2 (same ▸ Members.lookup_of_mem once member)).1
    · obtain ⟨there, unsent⟩ := mem_keys_leftTexts.mp member
      exact declared reject key there unsent
    · exact (readNamed_leftTexts_iff distinct once member).mpr
        ⟨fun content held => (form.sent f member content held).2, form.read f member⟩
    · exact (form.others key absent).trans (Instance.get?_withFiles_of_not_mem once absent).symm

/-! ### Files without a field, and texts with the name of a file -/

theorem leftTexts_of_not_mem (absent : ∀ p ∈ files, p.1 ∉ Members.keys members) :
    leftTexts files members = members := by
  rw [leftTexts]
  induction files with
  | nil => rfl
  | cons file rest ih =>
    rw [List.forall_mem_cons] at absent
    rw [List.foldl_cons, Members.erase_of_not_mem absent.1]
    exact ih absent.2

theorem setFiles_eq_declared (i : Instance) (files : List (String × List UInt8)) :
    setFiles files i = setFiles (files.filter fun p => (i.model.field? p.1).isSome) i := by
  induction files generalizing i with
  | nil => rfl
  | cons file rest ih =>
    obtain ⟨name, content⟩ := file
    by_cases declared : (i.model.field? name).isSome
    · simp only [setFiles, List.filter_cons, declared, if_true]
      cases set : i.set name (.bytes content) with
      | error e => rfl
      | ok k =>
        obtain ⟨_, rfl⟩ := Instance.set_bytes_eq_ok_iff.mp set
        exact ih (i.put name (.bytes content))
    · simp only [setFiles, List.filter_cons, declared]
      exact ih i

/-- A form is read as if the files without a field had not been sent, nor the texts that have
the name of a file. -/
theorem decodeForm_eq_declared (found : s.get? name = some m) (c : Codec)
    (files : List (String × List UInt8)) (members : List (String × Json)) :
    s.decodeForm c name (.obj members) files =
      s.decodeForm c name (.obj (leftTexts files members))
        (files.filter fun p => (m.field? p.1).isSome) := by
  have empty : s.instance? name = .ok { model := m } := instance?_eq_ok_iff.mpr ⟨m, found, rfl⟩
  -- Texts with the name of a file are gone already, so fewer files remove no more of them.
  have left : leftTexts (files.filter fun p => (m.field? p.1).isSome) (leftTexts files members) =
      leftTexts files members := by
    refine leftTexts_of_not_mem fun p member there => ?_
    have sent : p.1 ∈ Members.keys files := List.mem_map_of_mem (List.mem_of_mem_filter member)
    exact (mem_keys_leftTexts.mp there).2 sent
  have set := setFiles_eq_declared { model := m } files
  rw [decodeForm, decodeForm, empty, withoutFiles_obj, withoutFiles_obj, left]
  exact congrArg (· >>= _) set

theorem decodeForm_congr {others : List (String × Json)} (left : Members.Sorted members)
    (right : Members.Sorted others)
    (agree : ∀ key, key ∉ Members.keys files →
      Members.lookup key others = Members.lookup key members) :
    s.decodeForm c name (.obj others) files = s.decodeForm c name (.obj members) files := by
  have same : leftTexts files others = leftTexts files members := by
    refine Members.Sorted.ext (sorted_leftTexts right) (sorted_leftTexts left) fun key => ?_
    rw [lookup_leftTexts, lookup_leftTexts]
    split
    · rfl
    · rename_i unsent
      exact agree key unsent
  rw [decodeForm, decodeForm, withoutFiles_obj, withoutFiles_obj, same]

/-- Where undeclared texts are rejected, a form is read as an instance exactly when each text
without a file has a field and the instance holds what the form fills it with. So a form with a
text that has neither a field nor a file of its name is not read. When a form is read, each
field that was sent a file is one of bytes and holds exactly the content of the file, and any
other field holds what its own text decides, whatever other texts and files there are. A text
that has the name of a file makes no difference. A file without a field makes none either, save
that a text of its name is dropped with it. -/
theorem decodeForm_files (reject : c.unknownFields = .reject) (found : s.get? name = some m)
    (distinct : m.fieldNames.Nodup) (once : (Members.keys files).Nodup) :
    (∀ i, s.decodeForm c name (.obj members) files = .ok i ↔
        (∀ key ∈ Members.keys members, key ∉ Members.keys files → key ∈ m.fieldNames) ∧
          FormFilled s c m members files i) ∧
      (∀ key ∈ Members.keys members, key ∉ m.fieldNames → key ∉ Members.keys files →
        ∀ i, s.decodeForm c name (.obj members) files ≠ .ok i) ∧
      (∀ i, s.decodeForm c name (.obj members) files = .ok i →
        (∀ f ∈ m.fields, ∀ content, Members.lookup f.name files = some content →
          f.type = .bytes ∧ i.get? f.name = some (.bytes content)) ∧
        ∀ f ∈ m.fields, f.name ∉ Members.keys files →
          ∀ others more j, (Members.keys more).Nodup → f.name ∉ Members.keys more →
            Members.lookup f.name others = Members.lookup f.name members →
            s.decodeForm c name (.obj others) more = .ok j → j.get? f.name = i.get? f.name) ∧
      (∀ others, Members.Sorted members → Members.Sorted others →
        (∀ key, key ∉ Members.keys files →
          Members.lookup key others = Members.lookup key members) →
        s.decodeForm c name (.obj others) files = s.decodeForm c name (.obj members) files) ∧
      s.decodeForm c name (.obj members) files =
        s.decodeForm c name (.obj (leftTexts files members))
          (files.filter fun p => (m.field? p.1).isSome) := by
  have readable : ∀ i, s.decodeForm c name (.obj members) files = .ok i ↔
      (∀ key ∈ Members.keys members, key ∉ Members.keys files → key ∈ m.fieldNames) ∧
        FormFilled s c m members files i := by
    intro i
    rw [decodeForm_eq_ok_iff found distinct once, forall_prop_of_true reject]
  refine ⟨readable, fun key there undeclared unsent i read => ?_, fun i read => ⟨?_, ?_⟩, ?_, ?_⟩
  · exact undeclared (((readable i).mp read).1 key there unsent)
  · exact ((readable i).mp read).2.sent
  · intro f member unsent others more j once' unsent' same read'
    have here := ((readable i).mp read).2.read f member unsent
    have there := ((decodeForm_eq_ok_iff found distinct once').mp read').2.read f member unsent'
    rw [same] at there
    exact there.unique here
  · exact fun others left right agree => decodeForm_congr left right agree
  · exact decodeForm_eq_declared found c files members

/-- In a picture that is read, the image is the file that was sent and the title is that of the
form. A form that names an owner is no picture. -/
theorem decodeForm_files_gallery :
    (Members.keys dawnFiles).Nodup ∧
      gallery.decodeForm {} "Picture" dawnFields dawnFiles = .ok dawn ∧
      dawn.get? "image" = some (.bytes [137, 80]) ∧
      (∀ others more j, (Members.keys more).Nodup → "title" ∉ Members.keys more →
        Members.lookup "title" others = some (.str "Dawn") →
        gallery.decodeForm {} "Picture" (.obj others) more = .ok j →
        j.get? "title" = some (.string "Dawn")) ∧
      ∀ i, gallery.decodeForm {} "Picture" (.obj [("owner", .str "Ada"), ("title", .str "Dawn")])
        dawnFiles ≠ .ok i := by
  have found : gallery.get? "Picture" = some picture := rfl
  have distinct : picture.fieldNames.Nodup := by decide
  have once : (Members.keys dawnFiles).Nodup := by decide
  have decoded : gallery.decodeForm {} "Picture" dawnFields dawnFiles = .ok dawn := rfl
  obtain ⟨sent, texts⟩ := (decodeForm_files rfl found distinct once).2.2.1 dawn decoded
  refine ⟨once, decoded, ?_, ?_, ?_⟩
  · exact (sent ⟨"image", .bytes, .mandatory, none, false⟩ (by decide) [137, 80] rfl).2
  · exact texts ⟨"title", .string, .mandatory, none, false⟩ (by decide) (by decide)
  · exact (decodeForm_files rfl found distinct once).2.1 "owner" (by decide) (by decide)
      (by decide)

/-- A picture is read from a form with a file that the model has no field for, and from one with
a text of that name too, though undeclared names are to be rejected. -/
theorem decodeForm_dropsFile :
    ({} : Codec).unknownFields = .reject ∧ gallery.get? "Picture" = some picture ∧
      "frame" ∈ Members.keys dawnFiles ∧ "frame" ∉ picture.fieldNames ∧
      gallery.decodeForm {} "Picture" dawnFields dawnFiles = .ok dawn ∧
      gallery.decodeForm {} "Picture"
          (.obj [("frame", .str "oak"), ("title", .str "Dawn"), ("year", .null)]) dawnFiles =
        .ok dawn :=
  ⟨rfl, rfl, by decide, by decide, rfl, rfl⟩

end ModelSet

end ApiContract
