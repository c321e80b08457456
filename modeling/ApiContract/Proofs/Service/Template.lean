import ApiContract.Proofs.Members
import ApiContract.Proofs.Text.Split
import ApiContract.Service.Template

/-!
# Paths that a template stands for

A template stands for the paths that spell its texts one after the other: a text in braces
stands for any text without slashes that is not empty, and every other text for itself. Each
such path spells the template in one way only, so what a name stands for is determined by the
path, and can be found by cutting the path at its slashes.

## Main definitions

* `Template.Fits` — a text of a path that a text of a template stands for
* `Template.Spells` — a path that a template stands for, with its texts
* `Template.Binds` — what a name of a template stands for
* `Template.capture?` — what is found when a path is cut at its slashes

## Main results

* `Template.Spells.pathTexts?_eq` — a path spells a template in one way
* `Template.spells_of_capture?`, `Template.Spells.exists_capture?` — a template is matched by
  the paths that it stands for
* `Template.lookup_captured` — the values of a match are what the names stand for
-/

namespace ApiContract

/-- A segment of a template. -/
inductive Segment where
  | literal (text : String)
  | param (name : String)
  deriving DecidableEq, Repr

/-- The segment that a text between slashes stands for. -/
def Segment.ofText (text : String) : Segment :=
  match Operation.routeToken? text with
  | some name => .param name
  | none => .literal text

namespace Template

/-- The segments of a template. -/
def segments (template : String) : List Segment :=
  (texts template).map Segment.ofText

/-- The names of the parameters of a template, in order. -/
def paramNames (template : String) : List String :=
  (segments template).filterMap fun
    | .param name => some name
    | .literal _ => none

/-- The texts after the slashes of a path; an empty one at its end does not count. -/
def pathTexts? (path : String) : Option (List String) :=
  match Text.split path '/' with
  | "" :: first :: rest =>
    let texts := first :: rest
    some (if texts.getLast? = some "" then texts.dropLast else texts)
  | _ => none

/-- What the parameters among segments stand for in the texts of a path. -/
def captureTexts? : List Segment → List String → Option (List String)
  | [], [] => some []
  | .literal text :: segments, piece :: pieces =>
    if piece = text then captureTexts? segments pieces else none
  | .param _ :: segments, piece :: pieces =>
    if piece = "" then none else (captureTexts? segments pieces).map (piece :: ·)
  | _, _ => none

/-- What the parameters of a template stand for in a path, in order, if the path matches. -/
def capture? (template path : String) : Option (List String) :=
  (pathTexts? path).bind (captureTexts? (segments template))

/-- A name in braces. -/
def token (name : String) : String := "\x7b" ++ name ++ "\x7d"

/-- A text of a path that a text of a template stands for. -/
inductive Fits : String → String → Prop
  | literal (text : String) (other : ∀ name, text ≠ token name) : Fits text text
  | param (name piece : String) (nonempty : piece ≠ "") (plain : '/' ∉ piece.toList) :
      Fits (token name) piece

/-- A path spells a template by some texts: each of them is preceded by a slash, and one more
slash may follow the last of them. The template without texts is spelled by a single slash. -/
structure Spells (template : String) (pieces : List String) (path : String) : Prop where
  fits : List.Forall₂ Fits (texts template) pieces
  path : path = "/" ++ Text.join "/" pieces ∨
    pieces ≠ [] ∧ path = "/" ++ Text.join "/" pieces ++ "/"

/-- What a name stands for: the text of the path at the last place where the template has the
name in braces. -/
def Binds (texts pieces : List String) (name raw : String) : Prop :=
  ∃ k, texts[k]? = some (token name) ∧ pieces[k]? = some raw ∧ token name ∉ texts.drop (k + 1)

variable {template path name raw text piece : String} {segments pieces values : List String}

/-! ### The texts of a template -/

theorem routeToken?_eq_some_iff : Operation.routeToken? text = some name ↔ text = token name := by
  simp only [Operation.routeToken?, Option.bind_eq_some_iff, Text.stripStart?_eq_some_iff,
    Text.stripEnd?_eq_some_iff]
  constructor
  · rintro ⟨rest, rfl, rfl⟩
    rw [token, String.append_assoc]
  · rintro rfl
    exact ⟨name ++ "\x7d", by rw [token, String.append_assoc], rfl⟩

theorem routeToken?_token (name : String) : Operation.routeToken? (token name) = some name :=
  routeToken?_eq_some_iff.mpr rfl

theorem token_injective {other : String} (same : token name = token other) : name = other := by
  have read := routeToken?_token name
  rw [same, routeToken?_token] at read
  exact (Option.some.inj read).symm

theorem fits_token_iff {name piece : String} :
    Fits (token name) piece ↔ piece ≠ "" ∧ '/' ∉ piece.toList := by
  constructor
  · intro fits
    generalize written : token name = text at fits
    cases fits with
    | literal _ other => exact absurd written.symm (other name)
    | param _ _ nonempty plain => exact ⟨nonempty, plain⟩
  · rintro ⟨nonempty, plain⟩
    exact .param name piece nonempty plain

theorem fits_literal_iff {text piece : String} (other : ∀ name, text ≠ token name) :
    Fits text piece ↔ piece = text := by
  constructor
  · rintro (_ | ⟨name, _, _, _⟩)
    · rfl
    · exact absurd rfl (other name)
  · rintro rfl
    exact .literal piece other

/-- A text of a template is not empty and has no slash. -/
theorem text_plain (member : text ∈ texts template) : text ≠ "" ∧ '/' ∉ text.toList := by
  obtain ⟨cut, nonempty⟩ := List.mem_filter.mp member
  exact ⟨by simpa using nonempty, Text.not_mem_of_mem_split cut⟩

/-- What texts of a template stand for is not empty and has no slash. -/
theorem plain_of_fits (plain : ∀ text ∈ segments, text ≠ "" ∧ '/' ∉ text.toList)
    (fits : List.Forall₂ Fits segments pieces) :
    ∀ piece ∈ pieces, piece ≠ "" ∧ '/' ∉ piece.toList := by
  induction fits with
  | nil => exact List.forall_mem_nil _
  | cons first _ ih =>
    rw [List.forall_mem_cons] at plain ⊢
    refine ⟨?_, ih plain.2⟩
    cases first with
    | literal text _ => exact plain.1
    | param name piece nonempty free => exact ⟨nonempty, free⟩

/-! ### The texts of a path -/

private theorem join_empty_cons {parts : List String} (some : parts ≠ []) :
    Text.join "/" ("" :: parts) = "/" ++ Text.join "/" parts := by
  rw [Text.join, String.intercalate_cons_of_ne_nil some, String.empty_append]
  rfl

private theorem join_append_empty {parts : List String} (some : parts ≠ []) :
    Text.join "/" (parts ++ [""]) = Text.join "/" parts ++ "/" := by
  rw [Text.join, String.intercalate_append_of_ne_nil some (List.cons_ne_nil _ _)]
  simp [Text.join]

/-- The texts of a path spell it. -/
theorem path_of_pathTexts? (found : pathTexts? path = some pieces) :
    (path = "/" ++ Text.join "/" pieces ∨
      pieces ≠ [] ∧ path = "/" ++ Text.join "/" pieces ++ "/") ∧
        ∀ piece ∈ pieces, '/' ∉ piece.toList := by
  have whole : Text.join "/" (Text.split path '/') = path := Text.join_split path '/'
  have plain : ∀ piece ∈ Text.split path '/', '/' ∉ piece.toList := fun piece member =>
    Text.not_mem_of_mem_split member
  rw [pathTexts?] at found
  split at found
  · -- The text before the first slash is empty, and another text follows.
    rename_i first rest cut
    rw [cut, join_empty_cons (List.cons_ne_nil _ _)] at whole
    rw [cut, List.forall_mem_cons] at plain
    dsimp only at found
    obtain rfl := Option.some.inj found
    by_cases ends : (first :: rest).getLast? = some ""
    · -- The last text is empty, so the path ends in a slash.
      rw [if_pos ends]
      obtain ⟨front, last⟩ := List.getLast?_eq_some_iff.mp ends
      rw [last, List.dropLast_concat]
      rw [last] at whole plain
      refine ⟨?_, fun piece member => plain.2 piece (List.mem_append_left _ member)⟩
      by_cases none : front = []
      · left
        rw [none] at whole ⊢
        exact whole.symm
      · right
        rw [join_append_empty none, ← String.append_assoc] at whole
        exact ⟨none, whole.symm⟩
    · rw [if_neg ends]
      exact ⟨.inl whole.symm, plain.2⟩
  · cases found

/-- A path has one text for each text that it is spelled by. -/
theorem pathTexts?_of_path (plain : ∀ piece ∈ pieces, piece ≠ "" ∧ '/' ∉ piece.toList)
    (spelled : path = "/" ++ Text.join "/" pieces ∨
      pieces ≠ [] ∧ path = "/" ++ Text.join "/" pieces ++ "/") :
    pathTexts? path = some pieces := by
  have cut (parts : List String) (free : ∀ part ∈ parts, '/' ∉ part.toList)
      (some : parts ≠ []) : Text.split ("/" ++ Text.join "/" parts) '/' = "" :: parts := by
    rw [← join_empty_cons some]
    apply Text.split_join (List.cons_ne_nil _ _)
    rw [List.forall_mem_cons]
    exact ⟨by simp, free⟩
  have free : ∀ piece ∈ pieces, '/' ∉ piece.toList := fun piece member => (plain piece member).2
  have closed : ∀ piece ∈ pieces ++ [""], '/' ∉ piece.toList := by
    intro piece member
    rcases List.mem_append.mp member with inside | last
    · exact free piece inside
    · obtain rfl := List.mem_singleton.mp last
      simp
  rcases spelled with rfl | ⟨some, rfl⟩
  · cases pieces with
    | nil => rfl
    | cons first rest =>
      -- No piece is empty, so nothing is taken for a slash at the end.
      have last : (first :: rest).getLast? ≠ Option.some "" := by
        intro ends
        exact (plain "" (List.mem_of_getLast? ends)).1 rfl
      rw [pathTexts?, cut _ free (List.cons_ne_nil _ _)]
      simp only [if_neg last]
  · -- The slash at the end makes a further text, which is empty and dropped again.
    rw [String.append_assoc, ← join_append_empty some, pathTexts?,
      cut _ closed (List.append_ne_nil_of_right_ne_nil _ (List.cons_ne_nil _ _))]
    cases pieces with
    | nil => exact absurd rfl some
    | cons first rest =>
      have last : (first :: (rest ++ [""])).getLast? = Option.some "" := by
        rw [← List.cons_append, List.getLast?_concat]
      have front : (first :: (rest ++ [""])).dropLast = first :: rest := by
        rw [← List.cons_append, List.dropLast_concat]
      simp only [List.cons_append, if_pos last, front]

/-- A path spells a template in one way. -/
theorem Spells.pathTexts?_eq (spells : Spells template pieces path) :
    pathTexts? path = some pieces := by
  apply pathTexts?_of_path _ spells.path
  exact plain_of_fits (fun text member => text_plain member) spells.fits

/-! ### Matching -/

/-- The names in braces among the texts of a template. -/
def names (texts : List String) : List String :=
  texts.filterMap Operation.routeToken?

/-- The names of a template, each with a text that it stands for. -/
def captured (texts pieces : List String) : List (String × String) :=
  (texts.zip pieces).filterMap fun p => (Operation.routeToken? p.1).map fun name => (name, p.2)

theorem routeToken?_literal (other : ∀ name, text ≠ token name) :
    Operation.routeToken? text = none := by
  cases read : Operation.routeToken? text with
  | none => rfl
  | some name => exact absurd (routeToken?_eq_some_iff.mp read) (other name)

theorem ofText_token (name : String) : Segment.ofText (token name) = .param name := by
  rw [Segment.ofText, routeToken?_token]

theorem ofText_literal (other : ∀ name, text ≠ token name) :
    Segment.ofText text = .literal text := by
  rw [Segment.ofText, routeToken?_literal other]

theorem paramNames_eq (template : String) : paramNames template = names (texts template) := by
  rw [paramNames, Template.segments, names, List.filterMap_map]
  congr 1
  funext text
  rw [Function.comp_apply, Segment.ofText]
  cases Operation.routeToken? text <;> rfl

@[simp] theorem names_token (name : String) (segments : List String) :
    names (token name :: segments) = name :: names segments := by
  simp [names, routeToken?_token]

@[simp] theorem captured_token (name piece : String) (segments pieces : List String) :
    captured (token name :: segments) (piece :: pieces) =
      (name, piece) :: captured segments pieces := by
  simp [captured, routeToken?_token]

theorem names_literal (other : ∀ name, text ≠ token name) (segments : List String) :
    names (text :: segments) = names segments := by
  simp [names, routeToken?_literal other]

theorem captured_literal (other : ∀ name, text ≠ token name) (piece : String)
    (segments pieces : List String) :
    captured (text :: segments) (piece :: pieces) = captured segments pieces := by
  simp [captured, routeToken?_literal other]

/-- Texts that are matched are stood for, and the values go to the names in order. -/
theorem captureTexts?_eq_some (plain : ∀ piece ∈ pieces, '/' ∉ piece.toList)
    (found : captureTexts? (segments.map Segment.ofText) pieces = some values) :
    List.Forall₂ Fits segments pieces ∧
      (names segments).zip values = captured segments pieces := by
  -- Both lists are taken apart together; a value is captured only by a text in braces.
  induction segments generalizing pieces values with
  | nil =>
    cases pieces with
    | nil => exact ⟨.nil, by simp [names, captured]⟩
    | cons piece rest => cases found
  | cons text more ih =>
    rw [List.map_cons] at found
    by_cases inBraces : ∃ name, text = token name
    · obtain ⟨name, rfl⟩ := inBraces
      rw [ofText_token] at found
      cases pieces with
      | nil => cases found
      | cons piece rest =>
        rw [List.forall_mem_cons] at plain
        rw [captureTexts?] at found
        by_cases empty : piece = ""
        · rw [if_pos empty] at found
          cases found
        · rw [if_neg empty] at found
          obtain ⟨others, later, rfl⟩ := Option.map_eq_some_iff.mp found
          obtain ⟨fits, pairs⟩ := ih plain.2 later
          refine ⟨.cons (.param name piece empty plain.1) fits, ?_⟩
          rw [names_token, List.zip_cons_cons, pairs, captured_token]
    · rw [not_exists] at inBraces
      rw [ofText_literal inBraces] at found
      cases pieces with
      | nil => cases found
      | cons piece rest =>
        rw [List.forall_mem_cons] at plain
        rw [captureTexts?] at found
        by_cases same : piece = text
        · subst same
          rw [if_pos rfl] at found
          obtain ⟨fits, pairs⟩ := ih plain.2 found
          refine ⟨.cons (.literal piece inBraces) fits, ?_⟩
          rw [names_literal inBraces, pairs, captured_literal inBraces]
        · rw [if_neg same] at found
          cases found

/-- Texts that are stood for are matched. -/
theorem exists_captureTexts? (fits : List.Forall₂ Fits segments pieces) :
    ∃ values, captureTexts? (segments.map Segment.ofText) pieces = some values := by
  induction fits with
  | nil => exact ⟨[], rfl⟩
  | @cons text piece segments pieces first _ ih =>
    obtain ⟨values, later⟩ := ih
    rw [List.map_cons]
    cases first with
    | literal _ other =>
      rw [ofText_literal other, captureTexts?, if_pos rfl]
      exact ⟨values, later⟩
    | param name _ nonempty plain =>
      rw [ofText_token, captureTexts?, if_neg nonempty, later]
      exact ⟨piece :: values, rfl⟩

/-- A template is matched by paths that it stands for. -/
theorem spells_of_capture? (found : capture? template path = some values) :
    ∃ pieces, Spells template pieces path ∧
      (paramNames template).zip values = captured (texts template) pieces := by
  obtain ⟨pieces, cut, found⟩ := Option.bind_eq_some_iff.mp found
  obtain ⟨spelled, plain⟩ := path_of_pathTexts? cut
  obtain ⟨fits, pairs⟩ := captureTexts?_eq_some plain found
  exact ⟨pieces, ⟨fits, spelled⟩, by rw [paramNames_eq, pairs]⟩

/-- A template is matched by every path that it stands for. -/
theorem Spells.exists_capture? (spells : Spells template pieces path) :
    ∃ values, capture? template path = some values := by
  rw [capture?, spells.pathTexts?_eq, Option.bind_some]
  exact exists_captureTexts? spells.fits

/-! ### What names stand for -/

theorem binds_cons : Binds (text :: segments) (piece :: pieces) name raw ↔
    Binds segments pieces name raw ∨
      text = token name ∧ piece = raw ∧ token name ∉ segments := by
  constructor
  · rintro ⟨k, here, value, last⟩
    cases k with
    | zero => exact .inr ⟨by simpa using here, by simpa using value, by simpa using last⟩
    | succ k => exact .inl ⟨k, by simpa using here, by simpa using value, by simpa using last⟩
  · rintro (⟨k, here, value, last⟩ | ⟨rfl, rfl, last⟩)
    · exact ⟨k + 1, by simpa using here, by simpa using value, by simpa using last⟩
    · exact ⟨0, rfl, rfl, by simpa using last⟩

theorem keys_captured (fits : List.Forall₂ Fits segments pieces) :
    Members.keys (captured segments pieces) = names segments := by
  induction fits with
  | nil => rfl
  | cons first _ ih =>
    cases first with
    | literal text other => rw [captured_literal other, names_literal other, ih]
    | param name piece _ _ => rw [captured_token, names_token, Members.keys_cons, ih]

theorem mem_names : name ∈ names segments ↔ token name ∈ segments := by
  simp [names, routeToken?_eq_some_iff]

/-- Of the values of a name the last is what the name stands for. -/
theorem lookup_captured (fits : List.Forall₂ Fits segments pieces) :
    Members.lookup name (captured segments pieces).reverse = some raw ↔
      Binds segments pieces name raw := by
  induction fits with
  | nil => simp [captured, Binds]
  | @cons text piece segments pieces first later ih =>
    -- The reversed list is searched from the back, where this place comes last.
    rw [binds_cons, ← ih]
    cases first with
    | literal _ other =>
      rw [captured_literal other]
      simp [other name]
    | param own _ _ _ =>
      rw [captured_token, List.reverse_cons, Members.lookup_append]
      cases found : Members.lookup name (captured segments pieces).reverse with
      | some value =>
        -- The name comes again, so this place is not the last.
        have again : token name ∈ segments := by
          rw [← mem_names, ← keys_captured later]
          have listed := Members.isSome_lookup_iff.mp (Option.isSome_of_mem found)
          simpa [Members.keys] using listed
        simp [again]
      | none =>
        have last : token name ∉ segments := by
          rw [← mem_names, ← keys_captured later]
          have absent := Members.lookup_eq_none_iff.mp found
          simpa [Members.keys] using absent
        by_cases same : own = name
        · simp [Members.lookup_cons, same, last]
        · have differ : token own ≠ token name := fun alike => same (token_injective alike)
          simp [Members.lookup_cons, same, differ]

end Template

end ApiContract
