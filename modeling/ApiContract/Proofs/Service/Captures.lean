import ApiContract.Proofs.Contract.Compile
import ApiContract.Proofs.Request.Params
import ApiContract.Proofs.Service.Routes
import ApiContract.Proofs.Service.Template

/-!
# Parameters of the path are captured

The parameters that an operation declares for its path are compared with the tokens of the path
as the document has it. What is routed is that path behind the base of the document, and cut
into segments anew: where the two meet, the last segment of the base and the first one of the
path become one. A token that the path starts with is no segment of its own then, and what it
stands for is not captured. Every other token stays, so that every parameter in the path has a
value unless the path starts with a token behind a base.

## Main definitions

* `Route.Opens` — the path of an operation starts with a token

## Main results

* `RouteTable.isSome_lookup_of_resolve` — what is captured of a path
* `ParamSpec.extract_eq_missing_iff` — when a parameter is missed in the path
* `Operation.checkRoute_eq_ok_iff` — the parameters in the path are those that it has tokens for
* `captures_of_compileEndpoints` — what the operations of a document capture
-/

namespace ApiContract

/-! ### What is captured -/

/-- Whatever table finds a binding, a name has a value exactly when the route has its token. -/
theorem RouteTable.isSome_lookup_of_resolve {table : RouteTable} {method path name : String}
    {b : Binding} {params : List (String × String)}
    (resolved : table.resolve method path = .matched b params) :
    (Members.lookup name params).isSome ↔ Template.token name ∈ Template.texts b.route := by
  rw [resolve_eq] at resolved
  obtain ⟨_, _, values, captured, rfl⟩ := exists_capture_of_resolution resolved
  obtain ⟨pieces, spells, pairs⟩ := Template.spells_of_capture? captured
  rw [pathParams, pairs, Members.lookup_putAll, Members.isSome_lookup_reverse,
    Members.isSome_lookup_iff, Template.keys_captured spells.fits, Template.mem_names]

/-! ### What is missed -/

section Extract

variable {p : ParamSpec} {specs : List ParamSpec} {sources : ParamSources} {name : String}

theorem ParamSpec.orDefault_ne_missing {source : ExtractionSource} {raw? : Option String}
    (other : source ≠ .path) : p.orDefault source raw? ≠ .error (.missing .path name) := by
  intro failed
  rw [orDefault] at failed
  split at failed
  · have coerced := map_eq_error.mp failed
    rw [coerce] at coerced
    split at coerced <;> cases coerced
  · split at failed
    · cases failed
      exact other rfl
    · cases failed

/-- A parameter is missed in the path when it is one that no segment was captured for. -/
theorem ParamSpec.extract_eq_missing_iff :
    p.extract sources = .error (.missing .path name) ↔
      p.location = .path ∧ p.name = name ∧ Members.lookup p.name sources.path = none := by
  rw [extract]
  cases place : p.location with
  | path =>
    dsimp only
    rw [map_eq_error, fromPath]
    cases captured : Members.lookup p.name sources.path with
    | none => simp
    | some raw =>
      dsimp only
      cases decoded : Percent.decode raw with
      | error fault => simp
      | ok text =>
        dsimp only
        rw [coerce]
        cases Value.readScalar p.type text <;> simp
  | query =>
    refine ⟨fun failed => ?_, fun there => by cases there.1⟩
    exact absurd failed (orDefault_ne_missing (by decide))
  | form =>
    refine ⟨fun failed => ?_, fun there => by cases there.1⟩
    dsimp only at failed
    split at failed
    · rw [fromFiles] at failed
      split at failed
      · cases failed
      · split at failed <;> cases failed
    · exact absurd failed (orDefault_ne_missing (by decide))
  | body =>
    constructor
    · intro failed
      cases failed
    · intro there
      cases there.1

/-- The parameters are missed in the path only if one of them is. -/
theorem exists_missing_of_extractParams
    (failed : extractParams specs sources = .error (.missing .path name)) :
    ∃ p ∈ specs, p.location = .path ∧ Members.lookup p.name sources.path = none := by
  obtain ⟨values, p, member, step⟩ := exists_of_foldlM_error failed
  rcases bind_eq_error.mp step with missed | ⟨v?, _, ended⟩
  · obtain ⟨inPath, _, absent⟩ := ParamSpec.extract_eq_missing_iff.mp missed
    exact ⟨p, member, inPath, absent⟩
  · cases v? <;> cases ended

end Extract

/-! ### What is checked -/

/-- The path of an operation starts with the token of a name. -/
def Route.Opens (r : Route) (name : String) : Prop :=
  (Text.split r.path '/').head? = some (Template.token name)

namespace Operation

variable {path label name : String} {params : List ParamSpec}

theorem mem_routeTokens_iff :
    name ∈ routeTokens path ↔ Template.token name ∈ Text.split path '/' := by
  simp [routeTokens, Template.routeToken?_eq_some_iff]

/-- The parameters in the path are those that it has tokens for. -/
theorem checkRoute_eq_ok_iff : checkRoute path label params = .ok () ↔
    ∀ name, Template.token name ∈ Text.split path '/' ↔
      ∃ p ∈ params, p.location = .path ∧ p.name = name := by
  have declared : ∀ name, name ∈ (params.filter fun p => p.location = .path).map (·.name) ↔
      ∃ p ∈ params, p.location = .path ∧ p.name = name := by
    intro name
    simp [and_assoc]
  simp only [← mem_routeTokens_iff, ← declared]
  rw [checkRoute]
  generalize routeTokens path = tokens
  generalize (params.filter fun p => p.location = .path).map (·.name) = names
  cases undeclared : tokens.find? fun t => !names.contains t with
  | some t =>
    refine ⟨fun failed => (nomatch failed), fun same => ?_⟩
    have other := List.find?_some undeclared
    simp [← same t, List.mem_of_find?_eq_some undeclared] at other
  | none =>
    cases missing : names.find? fun n => !tokens.contains n with
    | some n =>
      refine ⟨fun failed => (nomatch failed), fun same => ?_⟩
      have other := List.find?_some missing
      simp [same n, List.mem_of_find?_eq_some missing] at other
    | none =>
      rw [List.find?_eq_none] at undeclared missing
      refine ⟨fun _ name => ⟨fun token => ?_, fun named => ?_⟩, fun _ => rfl⟩
      · simpa using undeclared name token
      · simpa using missing name named

end Operation

/-! ### What is routed -/

theorem Template.token_ne_empty (name : String) : token name ≠ "" := by
  simp [token]

/-- What all routes start with has no empty segment at its end. -/
theorem Document.base_eq_empty_of_split {d : Document} {before : List String}
    (cut : Text.split d.base '/' = before ++ [""]) : d.base = "" := by
  rw [base] at cut ⊢
  cases given : d.basePath with
  | none => rfl
  | some path =>
    rw [given] at cut
    exact Text.eq_empty_of_split_dropTrailing cut

namespace Route

variable {r : Route} {d : Document} {name : String}

/-- An operation is routed behind the base of its document, and its path has the tokens of its
parameters. -/
theorem routed_of_bind {api : String} {t : HandlerTable} {policy : HandlerPolicy} {b : Binding}
    (bound : r.bind api d t policy = .ok b) :
    b.route = d.base ++ r.path ∧ ∀ name, Template.token name ∈ Text.split r.path '/' ↔
      ∃ p ∈ b.params, p.location = .path ∧ p.name = name := by
  obtain ⟨_, _, _, _, _, _, _, _, checked, _, _, _, _, _, rfl⟩ := bind_eq_ok_iff.mp bound
  exact ⟨rfl, Operation.checkRoute_eq_ok_iff.mp checked⟩

/-- No token of the path is lost, unless the path starts with it behind a base. -/
theorem token_mem_texts (token : Template.token name ∈ Text.split r.path '/')
    (inside : d.base = "" ∨ ¬ r.Opens name) :
    Template.token name ∈ Template.texts (d.base ++ r.path) := by
  refine List.mem_filter.mpr ⟨?_, by simpa using Template.token_ne_empty name⟩
  rcases inside with none | other
  · rwa [none, String.empty_append]
  · obtain ⟨before, last, first, more, _, cut, joined⟩ := Text.exists_split_append d.base r.path '/'
    rw [Opens, cut, List.head?_cons] at other
    rw [cut, List.mem_cons] at token
    rw [joined]
    rcases token with here | later
    · exact absurd (congrArg some here.symm) other
    · exact List.mem_append_right _ (List.mem_cons_of_mem _ later)

/-- A token that the path starts with is lost behind a base, if it is nowhere else. -/
theorem token_not_mem_texts (based : d.base ≠ "") (opens : r.Opens name)
    (once : Template.token name ∉ (Text.split r.path '/').tail)
    (absent : Template.token name ∉ Text.split d.base '/') :
    Template.token name ∉ Template.texts (d.base ++ r.path) := by
  intro member
  obtain ⟨member, _⟩ := List.mem_filter.mp member
  obtain ⟨before, last, first, more, left, right, joined⟩ :=
    Text.exists_split_append d.base r.path '/'
  rw [Opens, right, List.head?_cons] at opens
  obtain rfl := Option.some.inj opens
  rw [right, List.tail_cons] at once
  rw [joined, List.mem_append, List.mem_cons] at member
  rw [left, List.mem_append, not_or] at absent
  rcases member with earlier | same | later
  · exact absent.1 earlier
  · -- The segment where both meet is longer than the token.
    have empty : last = "" := by
      have length := congrArg String.length same
      rw [String.length_append] at length
      exact String.length_eq_zero_iff.mp (by omega)
    rw [empty] at left
    exact based (Document.base_eq_empty_of_split left)
  · exact once later

end Route

/-! ### What the operations of a document capture -/

/-- A binding of a document is that of one of its operations. In whatever table it is found for
a path, a parameter in the path has a value exactly when the route has its token. So all of them
have one, and none is ever missed, unless the document has a base and the path of the operation
starts with a token. Behind a base, an operation whose path starts with a token that is nowhere
else can never be called: its parameters cannot be read. -/
theorem captures_of_compileEndpoints {api : String} {d : Document} {t : HandlerTable}
    {policy : HandlerPolicy} {bindings : List Binding}
    (compiled : compileEndpoints api d t policy = .ok bindings) {b : Binding}
    (member : b ∈ bindings) :
    ∃ r ∈ d.routes, r.bind api d t policy = .ok b ∧
      ∀ (table : RouteTable) (method path : String) (params : List (String × String)),
        table.resolve method path = .matched b params →
          (∀ p ∈ b.params, p.location = .path → ((Members.lookup p.name params).isSome ↔
            Template.token p.name ∈ Template.texts b.route)) ∧
          ((d.base = "" ∨ ∀ name, ¬ r.Opens name) →
            (∀ p ∈ b.params, p.location = .path → (Members.lookup p.name params).isSome) ∧
            ∀ query payload name, extractParams b.params { path := params, query, payload } ≠
              .error (.missing .path name)) ∧
          (d.base ≠ "" → ∀ name, r.Opens name →
            Template.token name ∉ (Text.split r.path '/').tail →
            Template.token name ∉ Text.split d.base '/' →
              ∀ query payload values,
                extractParams b.params { path := params, query, payload } ≠ .ok values) := by
  obtain ⟨r, declared, bound⟩ := (mem_mapM_iff compiled).mp member
  obtain ⟨route, tokens⟩ := Route.routed_of_bind bound
  refine ⟨r, declared, bound, fun table method path params resolved => ?_⟩
  refine ⟨fun p _ _ => RouteTable.isSome_lookup_of_resolve resolved, fun inside => ?_, ?_⟩
  · have all : ∀ p ∈ b.params, p.location = .path → (Members.lookup p.name params).isSome := by
      intro p listed inPath
      have token := (tokens p.name).mpr ⟨p, listed, inPath, rfl⟩
      rw [RouteTable.isSome_lookup_of_resolve resolved, route]
      exact Route.token_mem_texts token (inside.imp_right fun none => none p.name)
    refine ⟨all, fun query payload name failed => ?_⟩
    obtain ⟨p, listed, inPath, absent⟩ := exists_missing_of_extractParams failed
    have there := all p listed inPath
    rw [absent] at there
    cases there
  · intro based name opens once absent query payload values read
    -- The token that opens the path belongs to a parameter, which has to be read.
    obtain ⟨p, listed, inPath, rfl⟩ := (tokens name).mp (List.mem_of_head? opens)
    obtain ⟨v?, extracted⟩ := (lookup_extractParams read).1 p listed
    have lost : Members.lookup p.name params = none := by
      rw [← Option.not_isSome_iff_eq_none, RouteTable.isSome_lookup_of_resolve resolved, route]
      exact Route.token_not_mem_texts based opens once absent
    have missed : p.extract { path := params, query, payload } = .error (.missing .path p.name) :=
      ParamSpec.extract_eq_missing_iff.mpr ⟨inPath, rfl, lost⟩
    rw [missed] at extracted
    cases extracted

/-! ### Shelves of items -/

/-- The operation that gets an item by its number. -/
def pickItem : Operation where
  operationId := some "get_item"
  parameters := [{ name := some "id", location := "path", type := some "integer" }]
  responses := [("200", some "#/definitions/Item")]

/-- A document of items with that operation, under a base and a path. -/
def shelf (base path : String) : Document where
  format := .string "2.0"
  basePath := some base
  definitions := [("Item", {})]
  paths := [(path, [("GET", pickItem)])]

/-- The binding of the operation to a route, without a handler. -/
def shelfBinding (route : String) : Binding where
  api := "shelf"
  method := "GET"
  route := route
  params := [⟨"id", .path, .integer, true, none, none⟩]
  bodyModel := none
  handlerName := "get_item"
  handler := HandlerPolicy.stubHandler "get_item"
  decoratorName := none
  decorator := none
  results := ["Item"]
  produces := jsonMediaType

/-- Behind a base, the number of an item is captured from a path that starts with a slash. -/
theorem captures_of_compileEndpoints_shelf :
    compileEndpoints "shelf" (shelf "/api/" "/items/\x7bid\x7d") {} .stub =
        .ok [shelfBinding "/api/items/\x7bid\x7d"] ∧
      RouteTable.resolve ⟨[shelfBinding "/api/items/\x7bid\x7d"]⟩ "GET" "/api/items/7" =
        .matched (shelfBinding "/api/items/\x7bid\x7d") [("id", "7")] ∧
      (∀ r ∈ (shelf "/api/" "/items/\x7bid\x7d").routes, ∀ name, ¬ r.Opens name) ∧
      ∀ query payload name,
        extractParams (shelfBinding "/api/items/\x7bid\x7d").params
          { path := [("id", "7")], query, payload } ≠ .error (.missing .path name) := by
  have compiled : compileEndpoints "shelf" (shelf "/api/" "/items/\x7bid\x7d") {} .stub =
      .ok [shelfBinding "/api/items/\x7bid\x7d"] := rfl
  have resolved : RouteTable.resolve ⟨[shelfBinding "/api/items/\x7bid\x7d"]⟩ "GET"
      "/api/items/7" = .matched (shelfBinding "/api/items/\x7bid\x7d") [("id", "7")] :=
    RouteTable.resolve_eq _ _ _
  have closed : ∀ r ∈ (shelf "/api/" "/items/\x7bid\x7d").routes, ∀ name, ¬ r.Opens name := by
    intro r member name opens
    obtain rfl := List.mem_singleton.mp member
    exact Template.token_ne_empty name (Option.some.inj opens).symm
  obtain ⟨r, route, _, captures⟩ := captures_of_compileEndpoints compiled List.mem_cons_self
  obtain ⟨_, called, _⟩ := captures _ _ _ _ resolved
  exact ⟨compiled, resolved, closed, (called (.inr (closed r route))).2⟩

/-- Behind a base, a path that is a token is accepted. Its route is found, but for the path that
spells it only, which captures nothing: the number of the item is missed. -/
theorem missed_shelf :
    compileEndpoints "shelf" (shelf "/items" "\x7bid\x7d") {} .stub =
        .ok [shelfBinding "/items\x7bid\x7d"] ∧
      RouteTable.resolve ⟨[shelfBinding "/items\x7bid\x7d"]⟩ "GET" "/items\x7bid\x7d" =
        .matched (shelfBinding "/items\x7bid\x7d") [] ∧
      extractParams (shelfBinding "/items\x7bid\x7d").params { path := [] } =
        .error (.missing .path "id") :=
  ⟨rfl, RouteTable.resolve_eq _ _ _, rfl⟩

end ApiContract
