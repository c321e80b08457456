import ApiContract.Proofs.Model.Form

/-!
# Lenient reading extends strict reading

A text that is given for a scalar goes to another reader in a form than in a body, whether the
scalar is a field of the form's own model or lies deeper, in lists and nested instances. What is
read as a value strictly is read as the same value leniently all the same, so the lenient mode
adds spellings and takes none away.

## Main definitions

* `ModelSet.Relaxes` — whatever a JSON value is read as strictly, it is read as leniently

## Main results

* `ModelSet.relaxes` — every JSON value is read so
* `ModelSet.decodeForm_of_decode` — a body is read as the same instance when it comes as a form
-/

namespace ApiContract

namespace ModelSet

variable {s : ModelSet} {c : Codec} {type element : FieldType} {path : String}

/-- Whatever a JSON value is read as strictly, it is read as leniently. -/
def Relaxes (s : ModelSet) (c : Codec) (json : Json) : Prop :=
  ∀ type path v, readValue s c .strict json type path = .ok v →
    readValue s c .lenient json type path = .ok v

theorem readAtom_lenient {json : Json} {v : Value}
    (ok : readAtom s .strict json type path = .ok v) :
    readAtom s .lenient json type path = .ok v := by
  cases json with
  | str text =>
    -- Only a text has two readers. As a body's text stands for itself, both read the same one.
    have notFloat : ∀ x, Json.str text = .float x →
        Decimal.readFloat? (Decimal.text x) = some x := by rintro x ⟨⟩
    obtain ⟨_, written, plain⟩ :=
      plainScalar?_of_strictScalar? notFloat (readAtom_strict_eq_ok_iff.mp ok)
    obtain rfl := Option.some.inj written
    exact readAtom_plain_eq_ok_iff.mpr plain
  | _ => exact ok

section Members

variable {members : List (String × Json)}

theorem Fills.lenient {f : Field} {place : String} {isSet : Bool} {json? : Option Json}
    {v? : Option Value} (relaxes : ∀ json, json? = some json → s.Relaxes c json)
    (fills : Fills s c .strict f place isSet json? v?) :
    Fills s c .lenient f place isSet json? v? := by
  cases fills with
  | absent known => exact .absent known
  | nulled nullable => exact .nulled nullable
  | skipped optional => exact .skipped optional
  | read json v given reads => exact .read json v given (relaxes json rfl _ _ _ reads)

/-- Fields are filled alike one after the other, as their slots are the same all the way. -/
theorem readFields_lenient (relaxes : ∀ p ∈ members, s.Relaxes c p.2) {fields : List Field}
    {i j : Instance}
    (ok : readFields path (memberReaders s c .strict members) fields i = .ok j) :
    readFields path (memberReaders s c .lenient members) fields i = .ok j := by
  induction fields generalizing i with
  | nil => exact ok
  | cons f rest ih =>
    rw [readFields_cons] at ok ⊢
    obtain ⟨v?, first, ok⟩ := bind_eq_ok.mp ok
    have fills := (readNamed_eq_ok_iff.mp first).lenient fun json held =>
      relaxes _ (Members.mem_of_lookup held)
    exact bind_eq_ok.mpr ⟨v?, readNamed_eq_ok_iff.mpr fills, ih ok⟩

theorem readObject_lenient (relaxes : ∀ p ∈ members, s.Relaxes c p.2) {i j : Instance}
    (ok : readObject c path (memberReaders s c .strict members) i = .ok j) :
    readObject c path (memberReaders s c .lenient members) i = .ok j := by
  obtain ⟨declared, read⟩ := readObject_eq_readFields_ok_iff.mp ok
  rw [keys_memberReaders] at declared
  refine readObject_eq_readFields_ok_iff.mpr ⟨?_, readFields_lenient relaxes read⟩
  rwa [keys_memberReaders]

end Members

theorem readItems_lenient {items : List Json} (relaxes : ∀ item ∈ items, s.Relaxes c item)
    {start : Nat} {vs : List Value}
    (ok : readItems s c .strict items element path start = .ok vs) :
    readItems s c .lenient items element path start = .ok vs := by
  induction items generalizing start vs with
  | nil => exact ok
  | cons item rest ih =>
    obtain ⟨given, v, more, here, later, rfl⟩ := readItems_cons_eq_ok_iff.mp ok
    have first := relaxes item List.mem_cons_self _ _ _ here
    have others := ih (fun item member => relaxes item (List.mem_cons_of_mem _ member)) later
    exact readItems_cons_eq_ok_iff.mpr ⟨given, v, more, first, others, rfl⟩

theorem relaxes (s : ModelSet) (c : Codec) (json : Json) : s.Relaxes c json := by
  induction json using Json.parts_induction with
  | atom json atom =>
    intro type path v ok
    rw [readValue_atom atom] at ok ⊢
    exact readAtom_lenient ok
  | arr items each =>
    intro type path v ok
    rw [readValue] at ok ⊢
    cases type with
    | list element =>
      obtain ⟨vs, read, rfl⟩ := map_eq_ok.mp ok
      exact map_eq_ok.mpr ⟨vs, readItems_lenient each read, rfl⟩
    | _ => exact readAtom_lenient ok
  | obj members each =>
    intro type path v ok
    cases type with
    | model name =>
      obtain ⟨_, m, i, same, found, read, rfl⟩ := readValue_model_eq_ok_iff.mp ok
      obtain rfl := Json.obj.inj same
      exact readValue_model_eq_ok_iff.mpr
        ⟨members, m, i, rfl, found, readObject_lenient each read, rfl⟩
    | _ =>
      rw [readValue] at ok ⊢
      exact readAtom_lenient ok

/-- A body that is read as an instance is read as the same one when it comes as a form. -/
theorem decodeForm_of_decode {name : String} {json : Json} {i : Instance}
    (read : s.decode c name json = .ok i) : s.decodeForm c name json [] = .ok i :=
  decodeForm_nil_eq_ok_iff.mpr (s.relaxes c json _ _ _ (decode_eq_ok_iff.mp read))

end ModelSet

/-! ### Parcels on their way -/

/-- The model of routes: the parcels of each stop, and when each stop is reached. -/
def parcelRoute : Model where
  name := "Route"
  api := "depot"
  fields := [⟨"stops", .list (.list (.model "Parcel")), .mandatory, none, false⟩,
    ⟨"times", .list .timestamp, .optional, none, false⟩]

/-- The models of a depot that sends parcels out. -/
def sendingDepot : ModelSet := ⟨"depot", [parcel, parcelRoute]⟩

/-- A body for a route with a stop for no parcel and one for a parcel. The model does not declare
the color. -/
def parcelRouteBody : Json :=
  .obj [("color", .str "red"),
    ("stops", .arr [.arr [], .arr [.obj parcelBody]]),
    ("times", .arr [.str "2024-03-01T10:20:30Z", .str "2024-03-01T11:00:00Z"])]

/-- A codec that tolerates the color reads the same route from the body in both modes. -/
theorem ModelSet.decodeForm_of_decode_route :
    ∃ i, sendingDepot.decode { unknownFields := .tolerate } "Route" parcelRouteBody = .ok i ∧
      sendingDepot.decodeForm { unknownFields := .tolerate } "Route" parcelRouteBody [] =
        .ok i := by
  have decodes : (sendingDepot.decode { unknownFields := .tolerate } "Route"
      parcelRouteBody).toOption.isSome := by decide +kernel
  obtain ⟨i, found⟩ := Option.isSome_iff_exists.mp decodes
  have read := toOption_eq_some.mp found
  exact ⟨i, read, decodeForm_of_decode read⟩

end ApiContract
