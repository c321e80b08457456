import ApiContract.Proofs.Service.Routes
import ApiContract.Proofs.Service.Template
import ApiContract.Proofs.Text.Percent
import ApiContract.Request.Params

/-!
# Paths built from a template

A path is built from a template and a text for each of its names: the texts of the template are
written one after the other, and in the place of each name its text, percent-coded. Whatever the
texts are, the path has one segment for each of the template, because a code has no slash. So the
path is matched by the template, what is captured are the codes, and the parameters in the path
are the texts that it was built from.

## Main definitions

* `Template.build` — the path of a template for the texts of its names
* `Template.codes` — the codes that are captured of it, by name

## Main results

* `Template.spells_build` — a built path is spelled by its template
* `Template.capture?_build` — what the template captures of it
* `extractParams_of_each` — the values of parameters that all have one
* `RouteTable.resolve_build` — building a path and routing it are inverse
-/

namespace ApiContract

namespace Template

variable {template name text : String} {values : String → String} {segments : List String}

/-- The segment of a path for a text of a template. -/
def fill (values : String → String) (text : String) : String :=
  match Operation.routeToken? text with
  | some name => Percent.encode (values name)
  | none => text

/-- The path of a template for the texts of its names. -/
def build (template : String) (values : String → String) : String :=
  "/" ++ Text.join "/" ((texts template).map (fill values))

theorem fill_token (values : String → String) (name : String) :
    fill values (token name) = Percent.encode (values name) := by
  rw [fill, routeToken?_token]

theorem fill_literal (other : ∀ name, text ≠ token name) : fill values text = text := by
  rw [fill, routeToken?_literal other]

/-- A text of a template stands for the segment that is written in its place. -/
theorem fits_fill (nonempty : ∀ name, text = token name → values name ≠ "") :
    Fits text (fill values text) := by
  by_cases inBraces : ∃ name, text = token name
  · obtain ⟨name, rfl⟩ := inBraces
    rw [fill_token]
    exact .param name _ (Percent.encode_ne_empty (nonempty name rfl))
      (Percent.slash_not_mem_encode _)
  · rw [not_exists] at inBraces
    rw [fill_literal inBraces]
    exact .literal text inBraces

theorem forall₂_fits_fill (nonempty : ∀ name ∈ names segments, values name ≠ "") :
    List.Forall₂ Fits segments (segments.map (fill values)) := by
  rw [List.forall₂_map_right_iff, List.forall₂_same]
  intro text member
  apply fits_fill
  rintro name rfl
  exact nonempty name (mem_names.mpr member)

/-- A built path is spelled by its template, also with a further slash, if there is a segment
before. -/
theorem spells_build (nonempty : ∀ name ∈ paramNames template, values name ≠ "") :
    Spells template ((texts template).map (fill values)) (build template values) ∧
      (texts template ≠ [] →
        Spells template ((texts template).map (fill values))
          (build template values ++ "/")) := by
  rw [paramNames_eq] at nonempty
  have fits := forall₂_fits_fill nonempty
  refine ⟨⟨fits, .inl rfl⟩, fun some => ⟨fits, .inr ⟨?_, rfl⟩⟩⟩
  simpa using some

/-- What is captured of a built path are the codes of the texts, in order. -/
theorem captureTexts?_fill (nonempty : ∀ name ∈ names segments, values name ≠ "") :
    captureTexts? (segments.map Segment.ofText) (segments.map (fill values)) =
      some ((names segments).map fun name => Percent.encode (values name)) := by
  induction segments with
  | nil => rfl
  | cons text rest ih =>
    rw [List.map_cons, List.map_cons]
    -- A name captures its code, and any other text is there as it is.
    by_cases inBraces : ∃ name, text = token name
    · obtain ⟨name, rfl⟩ := inBraces
      rw [names_token, List.forall_mem_cons] at nonempty
      rw [ofText_token, fill_token, captureTexts?, if_neg (Percent.encode_ne_empty nonempty.1),
        ih nonempty.2, names_token]
      rfl
    · rw [not_exists] at inBraces
      rw [names_literal inBraces] at nonempty ⊢
      rw [ofText_literal inBraces, fill_literal inBraces, captureTexts?, if_pos rfl, ih nonempty]

/-- Of every path that is spelled like a built one, the codes are captured. -/
theorem capture?_of_spells {path : String}
    (nonempty : ∀ name ∈ paramNames template, values name ≠ "")
    (spells : Spells template ((texts template).map (fill values)) path) :
    capture? template path =
      some ((paramNames template).map fun name => Percent.encode (values name)) := by
  rw [capture?, spells.pathTexts?_eq, Option.bind_some, paramNames_eq]
  rw [paramNames_eq] at nonempty
  exact captureTexts?_fill nonempty

/-- The names of a template, each with the code of its text. -/
def codes (template : String) (values : String → String) : List (String × String) :=
  (paramNames template).map fun name => (name, Percent.encode (values name))

theorem keys_codes : Members.keys (codes template values) = paramNames template := by
  simp [Members.keys, codes, Function.comp_def]

theorem lookup_codes (distinct : (paramNames template).Nodup) (named : name ∈ paramNames template) :
    Members.lookup name (codes template values) = some (Percent.encode (values name)) :=
  Members.lookup_of_mem (by rwa [keys_codes])
    (List.mem_map_of_mem (f := fun name => (name, Percent.encode (values name))) named)

/-- What is captured goes to the names in order. -/
theorem pathParams_codes (distinct : (paramNames template).Nodup) :
    RouteTable.pathParams template
        ((paramNames template).map fun name => Percent.encode (values name)) =
      codes template values := by
  have once : (Members.keys (codes template values)).Nodup := by rwa [keys_codes]
  rw [RouteTable.pathParams, ← List.map_prod_left_eq_zip]
  exact Members.putAll_of_nodup once

end Template

/-! ### Parameters that are texts -/

section Extract

variable {p : ParamSpec} {specs : List ParamSpec} {sources : ParamSources}
  {values : String → String} {raw text : String}

/-- When every parameter has a value, the values are those, under the names of the parameters. -/
theorem extractParams_of_each {value : ParamSpec → Value}
    (each : ∀ p ∈ specs, p.extract sources = .ok (some (value p))) :
    extractParams specs sources = .ok (Members.putAll (specs.map fun p => (p.name, value p))) := by
  rw [extractParams, Members.putAll]
  -- The induction is on the parameters that are left, after any values.
  generalize ([] : List (String × Value)) = before
  induction specs generalizing before with
  | nil => rfl
  | cons p rest ih =>
    obtain ⟨here, later⟩ := List.forall_mem_cons.mp each
    rw [List.foldlM_cons, here, List.map_cons, List.foldl_cons]
    exact ih later _

/-- A text in the path is the one that its segment is the code of. -/
theorem ParamSpec.extract_of_encode (inPath : p.location = .path) (plain : p.type = .string)
    (captured : Members.lookup p.name sources.path = some (Percent.encode text)) :
    p.extract sources = .ok (some (.string text)) := by
  rw [extract, inPath]
  dsimp only
  rw [fromPath, captured]
  dsimp only
  rw [Percent.decode_encode]
  dsimp only
  rw [coerce, plain]
  rfl

end Extract

/-! ### Routing -/

namespace RouteTable

variable {b : Binding} {values : String → String} {path : String}

/-- A binding alone resolves its method and a path that its template matches. -/
theorem resolve_singleton {captured : List String}
    (found : Template.capture? b.route path = some captured) :
    resolve ⟨[b]⟩ b.method path = .matched b (pathParams b.route captured) := by
  simp [resolve_eq, resolution, candidates, found]

/-- Building a path and routing it are inverse. In the table of a single binding, whose route has
distinct names, at least one, the path that is built from the route and a text for each name is
matched by the binding, with or without a slash at its end. What is captured are the codes of the
texts, and parameters in the path that are texts have the very texts as values. -/
theorem resolve_build (values : String → String) (some : Template.paramNames b.route ≠ [])
    (distinct : (Template.paramNames b.route).Nodup)
    (nonempty : ∀ name ∈ Template.paramNames b.route, values name ≠ "") :
    ∃ t params, empty.insert b = .ok t ∧ t.bindings = [b] ∧
      (∀ path ∈ [Template.build b.route values, Template.build b.route values ++ "/"],
        t.resolve b.method path = .matched b params) ∧
      ∀ specs query payload, (specs.map (·.name)).Nodup →
        (∀ p ∈ specs, p.location = .path ∧ p.type = .string ∧
          p.name ∈ Template.paramNames b.route) →
        extractParams specs { path := params, query, payload } =
          .ok (specs.map fun p => (p.name, .string (values p.name))) := by
  refine ⟨⟨[b]⟩, Template.codes b.route values, insert_eq_ok_iff.mpr ⟨rfl, rfl⟩, rfl, ?_, ?_⟩
  · obtain ⟨plain, slashed⟩ := Template.spells_build nonempty
    have segments : Template.texts b.route ≠ [] := by
      intro none
      rw [Template.paramNames_eq, none] at some
      exact some rfl
    intro path member
    rw [← Template.pathParams_codes distinct]
    apply resolve_singleton
    apply Template.capture?_of_spells nonempty
    rcases List.mem_pair.mp member with rfl | rfl
    · exact plain
    · exact slashed segments
  · intro specs query payload once each
    have read : ∀ p ∈ specs, p.extract { path := Template.codes b.route values, query, payload } =
        .ok (Option.some (.string (values p.name))) := by
      intro p member
      obtain ⟨inPath, plain, named⟩ := each p member
      exact ParamSpec.extract_of_encode inPath plain (Template.lookup_codes distinct named)
    rw [extractParams_of_each read, Members.putAll_of_nodup]
    rwa [Members.keys, List.map_map]

/-! ### Tags of files -/

/-- A parameter in the path that is a text. -/
def textInPath (name : String) : ParamSpec := ⟨name, .path, .string, true, none, none⟩

/-- The binding that gets a tag of a file, both by their names. -/
def fileTag : Binding where
  api := "files"
  method := "GET"
  route := "/files/\x7bfile\x7d/tags/\x7btag\x7d"
  params := [textInPath "file", textInPath "tag"]
  bodyModel := none
  handlerName := "get_tag"
  handler := HandlerPolicy.stubHandler "get_tag"
  decoratorName := none
  decorator := none
  results := ["Tag"]
  produces := jsonMediaType

/-- A file in a directory, and a tag that is made of signs. -/
def tagNames (name : String) : String := if name = "file" then "a/b c" else "50%+é"

/-- Slashes, blanks, signs and letters of other alphabets come back as they were. -/
theorem resolve_build_fileTag :
    Template.paramNames fileTag.route = ["file", "tag"] ∧
      Template.build fileTag.route tagNames = "/files/a%2Fb%20c/tags/50%25%2B%C3%A9" ∧
      ∃ t params, empty.insert fileTag = .ok t ∧
        t.resolve "GET" "/files/a%2Fb%20c/tags/50%25%2B%C3%A9/" = .matched fileTag params ∧
        extractParams fileTag.params { path := params } =
          .ok [("file", .string "a/b c"), ("tag", .string "50%+é")] := by
  have names : Template.paramNames fileTag.route = ["file", "tag"] := by decide +kernel
  have built : Template.build fileTag.route tagNames = "/files/a%2Fb%20c/tags/50%25%2B%C3%A9" := by
    decide +kernel
  obtain ⟨t, params, inserted, _, matched, values⟩ := resolve_build (b := fileTag) tagNames
    (by rw [names]; decide) (by rw [names]; decide) (by rw [names]; decide)
  refine ⟨names, built, t, params, inserted, ?_, ?_⟩
  · rw [built] at matched
    exact matched _ (by decide)
  · exact values fileTag.params [] none (by decide) (by rw [names]; decide)

end RouteTable

end ApiContract
