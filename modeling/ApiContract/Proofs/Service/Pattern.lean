import ApiContract.Proofs.Service.Template
import ApiContract.Proofs.Text.Regex

/-!
# Patterns of templates

The pattern of a template matches exactly the paths that the template stands for, and its groups
stand for what the names do. So every lawful engine captures of a path what is found when the path
is cut at its slashes, for every template that it does not refuse. The engine at hand refuses no
template.

## Main definitions

* `Template.items` — the items that the pattern of a template is written from

## Main results

* `Template.write_eq` — what is written is the pattern of these items
* `Template.matches_items_iff` — which paths they match, and what their groups stand for
* `RoutePattern.captures?_eq` — what a lawful engine captures
* `Template.exists_compile` — the engine at hand refuses no template
-/

namespace ApiContract

namespace Template

open Regex (Item Matches)

variable {E : RegexEngine} {template path : String} {texts pieces : List String}
  {chars rest : List Char} {groups behind : List (List Char)}

/-! ### What is written -/

/-- The items of a text of a template, behind a slash. -/
def textItems (text : String) : List Item :=
  [.char '/', if (Operation.routeToken? text).isSome then .others '/' else .literal text]

/-- The item at the end of a pattern: a slash, which may be missing behind other texts. -/
def lastItem (texts : List String) : Item :=
  if texts = [] then .char '/' else .maybe '/'

/-- The items of a template. -/
def items (template : String) : List Item :=
  (Template.texts template).flatMap textItems ++ [lastItem (Template.texts template)]

theorem textItems_token (name : String) : textItems (token name) = [.char '/', .others '/'] := by
  rw [textItems, routeToken?_token]
  rfl

theorem textItems_literal {text : String} (other : ∀ name, text ≠ token name) :
    textItems text = [.char '/', .literal text] := by
  rw [textItems, routeToken?_literal other]
  rfl

theorem isPlain_of_mem_items {i : Item} (member : i ∈ items template) : i.IsPlain := by
  have slash : Regex.isMeta '/' = false := by decide
  rcases List.mem_append.mp member with inside | last
  · obtain ⟨text, _, here⟩ := List.mem_flatMap.mp inside
    rcases List.mem_pair.mp here with rfl | rfl
    · exact slash
    · split
      · exact slash
      · exact trivial
  · obtain rfl := List.mem_singleton.mp last
    rw [lastItem]
    split
    · exact slash
    · exact slash

/-- Each text adds its items to what is written, and its name to the names. -/
theorem foldl_writeText (texts : List String) (start : String) (before : List String) :
    texts.foldl (writeText E) (start, before) =
      (start ++ String.join ((texts.flatMap textItems).map (Item.write E.escape)),
        before ++ names texts) := by
  induction texts generalizing start before with
  | nil => simp [names]
  | cons text more ih =>
    rw [List.foldl_cons, writeText, List.flatMap_cons]
    by_cases inBraces : ∃ name, text = token name
    · obtain ⟨name, rfl⟩ := inBraces
      rw [routeToken?_token, textItems_token, names_token, ih]
      simp [Item.write, String.append_assoc]
      rw [← String.append_assoc]
      rfl
    · have other := not_exists.mp inBraces
      rw [routeToken?_literal other, textItems_literal other, names_literal other, ih]
      simp [Item.write, String.append_assoc]

/-- What is written for a template is the pattern of its items. -/
theorem write_eq (E : RegexEngine) (template : String) :
    write E template = (Regex.write E.escape (items template), paramNames template) := by
  rw [write, foldl_writeText, paramNames_eq, items, Regex.write]
  cases Template.texts template with
  | nil => rfl
  | cons text more =>
    -- A slash is written for the first text already.
    have written : ("^" ++ String.join (((text :: more).flatMap textItems).map
        (Item.write E.escape)) == "^") = false := by
      rw [beq_eq_false_iff_ne]
      intro same
      have chars := congrArg String.toList same
      simp [textItems, Item.write] at chars
    have last : lastItem (text :: more) = .maybe '/' := if_neg (List.cons_ne_nil _ _)
    simp only [written, Bool.and_false, Bool.false_eq_true, if_false, List.nil_append,
      List.map_append, String.join_append, last, Prod.mk.injEq, and_true]
    simp [Item.write, String.append_assoc]

/-! ### What is matched -/

theorem captured_cons (text piece : String) (texts pieces : List String) :
    captured (text :: texts) (piece :: pieces) =
      captured [text] [piece] ++ captured texts pieces := by
  simp [captured, List.filterMap_cons]
  cases Operation.routeToken? text <;> rfl

/-- The items of a text match the texts of paths that it stands for, behind a slash. -/
theorem matches_textItems_iff {text : String} {items : List Item} :
    Matches (textItems text ++ items) chars groups ↔
      ∃ piece rest behind, Fits text piece ∧ chars = '/' :: piece.toList ++ rest ∧
        groups = (captured [text] [piece]).map (fun p => p.2.toList) ++ behind ∧
        Matches items rest behind := by
  by_cases inBraces : ∃ name, text = token name
  · obtain ⟨name, rfl⟩ := inBraces
    simp only [textItems_token, fits_token_iff, captured_token]
    constructor
    · rintro (_ | ⟨_, _ | _ | _ | _ | _ | ⟨_, piece, nonempty, without, onward⟩⟩)
      refine ⟨String.ofList piece, _, _, ⟨?_, ?_⟩, ?_, ?_, onward⟩
      · simpa using nonempty
      · simpa using without
      · simp
      · simp [captured]
    · rintro ⟨piece, rest, behind, ⟨nonempty, plain⟩, rfl, rfl, onward⟩
      exact .char '/' (.others '/' piece.toList (by simpa using nonempty) plain onward)
  · have other := not_exists.mp inBraces
    simp only [textItems_literal other, fits_literal_iff other, captured_literal other]
    constructor
    · rintro (_ | ⟨_, _ | _ | ⟨_, onward⟩⟩)
      exact ⟨text, _, _, rfl, rfl, rfl, onward⟩
    · rintro ⟨_, rest, behind, rfl, rfl, rfl, onward⟩
      exact .char '/' (.literal _ onward)

/-- The items of texts match what these stand for, one after the other. -/
theorem matches_texts_iff {items : List Item} :
    Matches (texts.flatMap textItems ++ items) chars groups ↔
      ∃ pieces rest behind, List.Forall₂ Fits texts pieces ∧
        chars = pieces.flatMap (fun piece => '/' :: piece.toList) ++ rest ∧
        groups = (captured texts pieces).map (fun p => p.2.toList) ++ behind ∧
        Matches items rest behind := by
  induction texts generalizing chars groups with
  | nil => simp [captured]
  | cons text more ih =>
    rw [List.flatMap_cons, List.append_assoc, matches_textItems_iff]
    constructor
    · rintro ⟨piece, _, _, fit, rfl, rfl, onward⟩
      obtain ⟨pieces, rest, behind, fits, rfl, rfl, last⟩ := ih.mp onward
      refine ⟨piece :: pieces, rest, behind, .cons fit fits, ?_, ?_, last⟩
      · simp
      · rw [captured_cons text piece more]
        simp
    · rintro ⟨_, rest, behind, _ | ⟨fit, fits⟩, rfl, rfl, last⟩
      refine ⟨_, _, _, fit, ?_, ?_, ih.mpr ⟨_, rest, behind, fits, rfl, rfl, last⟩⟩
      · simp
      · rw [captured_cons text _ more]
        simp

theorem matches_slash_iff :
    Matches [.char '/'] rest groups ↔ rest = ['/'] ∧ groups = [] := by
  constructor
  · rintro (_ | ⟨_, ⟨⟩⟩)
    exact ⟨rfl, rfl⟩
  · rintro ⟨rfl, rfl⟩
    exact .char '/' .nil

theorem matches_maybe_slash_iff :
    Matches [.maybe '/'] rest groups ↔ (rest = [] ∨ rest = ['/']) ∧ groups = [] := by
  constructor
  · rintro (_ | _ | _ | ⟨_, ⟨⟩⟩ | ⟨_, ⟨⟩⟩)
    · exact ⟨.inl rfl, rfl⟩
    · exact ⟨.inr rfl, rfl⟩
  · rintro ⟨rfl | rfl, rfl⟩
    · exact .missing '/' .nil
    · exact .present '/' .nil

/-- The texts of a path behind a slash each are joined by slashes. -/
theorem toList_join (some : pieces ≠ []) :
    ("/" ++ Text.join "/" pieces).toList = pieces.flatMap fun piece => '/' :: piece.toList := by
  induction pieces with
  | nil => exact absurd rfl some
  | cons piece more ih =>
    cases more with
    | nil => simp [Text.join]
    | cons next later =>
      rw [Text.join, String.intercalate_cons_of_ne_nil (List.cons_ne_nil _ _), List.flatMap_cons,
        ← ih (List.cons_ne_nil _ _)]
      simp [Text.join]

/-- A path is spelled by pieces when it has these behind a slash each, and as its rest what the
last item of the pattern matches. -/
theorem matches_lastItem_iff (fits : List.Forall₂ Fits texts pieces) :
    (∃ rest, path.toList = pieces.flatMap (fun piece => '/' :: piece.toList) ++ rest ∧
        Matches [lastItem texts] rest behind) ↔
      (path = "/" ++ Text.join "/" pieces ∨
        pieces ≠ [] ∧ path = "/" ++ Text.join "/" pieces ++ "/") ∧ behind = [] := by
  cases fits with
  | nil =>
    simp only [lastItem, if_true, matches_slash_iff, List.flatMap_nil, List.nil_append]
    have root : "/" ++ Text.join "/" [] = "/" := rfl
    rw [root, ← String.toList_inj]
    simp
  | @cons text piece texts pieces _ _ =>
    have some := List.cons_ne_nil piece pieces
    have last : lastItem (text :: texts) = .maybe '/' := if_neg (List.cons_ne_nil _ _)
    rw [← toList_join some, last]
    simp only [matches_maybe_slash_iff, ← String.toList_inj, String.toList_append]
    constructor
    · rintro ⟨rest, whole, rfl | rfl, rfl⟩
      · exact ⟨.inl (by simpa using whole), rfl⟩
      · exact ⟨.inr ⟨some, whole⟩, rfl⟩
    · rintro ⟨whole | ⟨_, whole⟩, rfl⟩
      · exact ⟨[], by simpa using whole, .inl rfl, rfl⟩
      · exact ⟨['/'], whole, .inr rfl, rfl⟩

/-- The items of a template match the paths that it stands for, and their groups stand for what
the names do. -/
theorem matches_items_iff : Matches (items template) path.toList groups ↔
    ∃ pieces, Spells template pieces path ∧
      groups = (captured (Template.texts template) pieces).map fun p => p.2.toList := by
  rw [items, matches_texts_iff]
  constructor
  · rintro ⟨pieces, rest, behind, fits, whole, rfl, last⟩
    obtain ⟨spelled, rfl⟩ := (matches_lastItem_iff fits).mp ⟨rest, whole, last⟩
    exact ⟨pieces, ⟨fits, spelled⟩, List.append_nil _⟩
  · rintro ⟨pieces, spells, rfl⟩
    obtain ⟨rest, whole, last⟩ := (matches_lastItem_iff spells.fits).mpr ⟨spells.path, rfl⟩
    exact ⟨pieces, rest, [], spells.fits, whole, (List.append_nil _).symm, last⟩

/-! ### What is captured -/

theorem compile_eq_ok_iff {r : RoutePattern E} : compile E template = .ok r ↔
    E.compile (Regex.write E.escape (items template)) = .ok r.pattern ∧
      r.names = paramNames template := by
  rw [compile, write_eq]
  cases compiled : E.compile (Regex.write E.escape (items template)) with
  | error e => simp [compiled, bind, Except.bind]
  | ok pattern =>
    obtain ⟨own, names⟩ := r
    simp [compiled, bind, Except.bind, pure, Except.pure, eq_comm]

/-- The engine at hand refuses no template. -/
theorem exists_compile (template : String) : ∃ r, compile Regex.engine template = .ok r := by
  have plain : ∀ i ∈ items template, i.IsPlain := fun _ => isPlain_of_mem_items
  have read := Regex.engine_compile_write plain
  exact ⟨{ pattern := _, names := paramNames template }, compile_eq_ok_iff.mpr ⟨read, rfl⟩⟩

end Template

/-- What a lawful engine captures of a path is what is found when the path is cut at its
slashes. -/
theorem RoutePattern.captures?_eq {E : RegexEngine} (lawful : E.Lawful) {template : String}
    {r : RoutePattern E} (compiled : Template.compile E template = .ok r) (path : String) :
    r.captures? path = (Template.capture? template path).map fun values =>
      (Template.paramNames template).zip values := by
  obtain ⟨pattern, names⟩ := Template.compile_eq_ok_iff.mp compiled
  have plain : ∀ i ∈ Template.items template, i.IsPlain :=
    fun _ => Template.isPlain_of_mem_items
  rw [captures?, names]
  cases found : E.captures? r.pattern path with
  | none =>
    cases cut : Template.capture? template path with
    | none => rfl
    | some values =>
      obtain ⟨pieces, spells, _⟩ := Template.spells_of_capture? cut
      have there := lawful.complete plain pattern (Template.matches_items_iff.mpr ⟨_, spells, rfl⟩)
      rw [found] at there
      cases there
  | some captures =>
    obtain ⟨groups, fits, rfl⟩ := lawful.sound plain pattern found
    obtain ⟨pieces, spells, rfl⟩ := Template.matches_items_iff.mp fits
    obtain ⟨values, cut⟩ := spells.exists_capture?
    obtain ⟨others, again, pairs⟩ := Template.spells_of_capture? cut
    -- A path spells a template in one way, so the match is the one that cutting finds.
    obtain rfl := Option.some.inj (spells.pathTexts?_eq.symm.trans again.pathTexts?_eq)
    rw [cut, Option.map_some, Option.map_some, pairs, Template.paramNames_eq,
      ← Template.keys_captured spells.fits, Members.keys]
    simp [List.zip_map', List.filterMap_map, Function.comp_def]

end ApiContract
