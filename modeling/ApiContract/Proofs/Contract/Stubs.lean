import ApiContract.Proofs.Contract.Assembly

/-!
# Compiling without all handlers

Under the policy that requires handlers, a document is refused at the first operation which names
a handler or a decorator that the table does not have. Under the other policy such names are
bound to functions that stand in for the missing ones. The names are looked up last, after all
that is checked of an operation. So both policies do the same up to the first name that is
missing, and the bindings that the second one makes are those of a table with all names, save for
the functions that have been added to it.

## Main definitions

* `AgreesUnless` — a computation that does the same as another one, up to errors of a kind
* `HandlerPolicy.resolve` — the one rule by which handlers and decorators are looked up
* `HandlerTable.Adds`, `Document.NamedIn` — a table to which entries have been added, and one
  that has all names of a document
* `Binding.withFunctions` — a binding with the functions that have been added to a table
* `Document.standIns` — a table with all names of a document

## Main results

* `compileEndpoints_agreesUnless` — the policies agree unless a name is missing
* `HandlerTable.exists_adds_named` — every table can be completed
* `compileEndpoints_withFunctions` — bindings without all functions are those of a table with
  all names
* `compileEndpoints_stub` — how the policies are related
-/

namespace ApiContract

/-! ### Agreement up to errors -/

section AgreesUnless

variable {ε α β : Type} {excused : ε → Prop} {x y : Except ε α} {f g : α → Except ε β}

/-- A computation does the same as a first one, unless that one fails with an error of a kind. -/
def AgreesUnless (excused : ε → Prop) (x y : Except ε α) : Prop :=
  y = x ∨ ∃ e, excused e ∧ x = .error e

namespace AgreesUnless

theorem refl (x : Except ε α) : AgreesUnless excused x x := .inl rfl

theorem eq_ok {a : α} (agrees : AgreesUnless excused x y) (done : x = .ok a) : y = .ok a := by
  rcases agrees with same | ⟨e, _, failed⟩
  · rw [same, done]
  · rw [done] at failed
    cases failed

theorem eq_error {e : ε} (agrees : AgreesUnless excused x y) (failed : x = .error e)
    (other : ¬ excused e) : y = .error e := by
  rcases agrees with same | ⟨e', excuse, failed'⟩
  · rw [same, failed]
  · rw [failed, Except.error.injEq] at failed'
    exact absurd (failed' ▸ excuse) other

theorem bind (first : AgreesUnless excused x y)
    (later : ∀ a, AgreesUnless excused (f a) (g a)) :
    AgreesUnless excused (x >>= f) (y >>= g) := by
  rcases first with rfl | ⟨e, excuse, rfl⟩
  · cases y with
    | error e => exact refl _
    | ok a => exact later a
  · exact .inr ⟨e, excuse, rfl⟩

/-- Items are gone through alike, up to the first of them that fails with an excused error. -/
theorem mapM {items : List α} (each : ∀ a, AgreesUnless excused (f a) (g a)) :
    AgreesUnless excused (items.mapM f) (items.mapM g) := by
  induction items with
  | nil => exact refl _
  | cons a rest ih =>
    rw [List.mapM_cons, List.mapM_cons]
    exact (each a).bind fun b => ih.bind fun others => refl _

end AgreesUnless

end AgreesUnless

/-! ### Names that are missing -/

/-- An error that tells of a name without function. -/
def ContractError.IsUnresolved (e : ContractError) : Prop :=
  ∃ operation name, e = .unresolvedHandler operation name

namespace HandlerPolicy

variable {α : Type} {policy : HandlerPolicy} {t : HandlerTable} {name label : String}

/-- The function of a name, or what the policy puts in the place of one that is not found. -/
def resolve (policy : HandlerPolicy) (found : Option α) (standIn : α) (label name : String) :
    Except ContractError α :=
  match found, policy with
  | some a, _ => .ok a
  | none, .require => .error (.unresolvedHandler label name)
  | none, .stub => .ok standIn

theorem handler_eq_resolve : policy.handler t name label =
    policy.resolve (t.handler? name) (stubHandler name) label name := by
  unfold handler resolve
  cases t.handler? name <;> cases policy <;> rfl

theorem decorator_eq_resolve : policy.decorator t name label =
    policy.resolve (t.decorator? name) (fun _ body => body) label name := by
  unfold decorator resolve
  cases t.decorator? name <;> cases policy <;> rfl

theorem resolve_agreesUnless (found : Option α) (standIn : α) :
    AgreesUnless ContractError.IsUnresolved (require.resolve found standIn label name)
      (stub.resolve found standIn label name) := by
  cases found with
  | some a => exact .refl _
  | none => exact .inr ⟨_, ⟨label, name, rfl⟩, rfl⟩

end HandlerPolicy

section Agreement

variable {t : HandlerTable} {r : Route} {api : String} {d : Document}

/-- An operation is bound alike, unless one of its names is missing. -/
theorem Route.bind_agreesUnless : AgreesUnless ContractError.IsUnresolved
    (r.bind api d t .require) (r.bind api d t .stub) := by
  rw [bind, bind]
  refine .bind (.refl _) fun signature => .bind (.refl _) fun _ => ?_
  refine .bind (.refl _) fun produces => .bind (.refl _) fun results => ?_
  -- Only now are names looked up in the table.
  cases r.operation.handlerName with
  | none => exact .refl _
  | some name =>
    simp only [HandlerPolicy.handler_eq_resolve, HandlerPolicy.decorator_eq_resolve]
    refine .bind (HandlerPolicy.resolve_agreesUnless _ _) fun handler => ?_
    refine .bind ?_ fun decorator => .refl _
    cases r.operation.decorateServer with
    | none => exact .refl _
    | some name => exact .bind (HandlerPolicy.resolve_agreesUnless _ _) fun _ => .refl _

/-- A document is compiled alike, unless a name is missing. -/
theorem compileEndpoints_agreesUnless : AgreesUnless ContractError.IsUnresolved
    (compileEndpoints api d t .require) (compileEndpoints api d t .stub) :=
  .mapM fun _ => Route.bind_agreesUnless

end Agreement

/-! ### Names that are added -/

/-- A table with the entries that have been added to another one, and beside them its own. -/
structure HandlerTable.Adds (u added t : HandlerTable) : Prop where
  handler (name : String) : u.handler? name = (added.handler? name).or (t.handler? name)
  decorator (name : String) : u.decorator? name = (added.decorator? name).or (t.decorator? name)

/-- A table has an entry for every handler and every decorator that an operation names. -/
structure Route.NamedIn (r : Route) (u : HandlerTable) : Prop where
  handler : ∀ name ∈ r.operation.handlerName, (u.handler? name).isSome
  decorator : ∀ name ∈ r.operation.decorateServer, (u.decorator? name).isSome

/-- A table has an entry for every handler and every decorator that a document names. -/
def Document.NamedIn (d : Document) (u : HandlerTable) : Prop :=
  ∀ r ∈ d.routes, r.NamedIn u

/-- A binding with the functions that have been added for its names. Nothing else is changed. -/
def Binding.withFunctions (added : HandlerTable) (b : Binding) : Binding :=
  { b with
    handler := (added.handler? b.handlerName).getD b.handler
    decorator := b.decoratorName.bind fun name => b.decorator.map (added.decorator? name).getD }

namespace HandlerTable

variable {t added : HandlerTable} {d : Document}

/-- Merging adds the entries of the second table. -/
theorem adds_merge (handlers : (Members.keys added.handlers).Nodup)
    (decorators : (Members.keys added.decorators).Nodup) : (t.merge added).Adds added t where
  handler name := by
    rw [handler?, merge, Members.lookup_foldl_put, Members.lookup_reverse handlers]
    rfl
  decorator name := by
    rw [decorator?, merge, Members.lookup_foldl_put, Members.lookup_reverse decorators]
    rfl

/-- The entries of a table before those of another one. -/
def before (added t : HandlerTable) : HandlerTable :=
  ⟨added.handlers ++ t.handlers, added.decorators ++ t.decorators⟩

theorem adds_before (added t : HandlerTable) : (added.before t).Adds added t where
  handler name := Members.lookup_append name added.handlers t.handlers
  decorator name := Members.lookup_append name added.decorators t.decorators

theorem Adds.namedIn {u : HandlerTable} (adds : u.Adds added t) (named : d.NamedIn added) :
    d.NamedIn u := by
  intro r listed
  constructor
  · intro name called
    rw [adds.handler, Option.isSome_or, (named r listed).handler name called, Bool.true_or]
  · intro name called
    rw [adds.decorator, Option.isSome_or, (named r listed).decorator name called, Bool.true_or]

end HandlerTable

/-- The names of a document, each with what stands in for it. -/
def Document.standIns (d : Document) : HandlerTable where
  handlers := d.routes.filterMap fun r =>
    r.operation.handlerName.map fun name => (name, HandlerPolicy.stubHandler name)
  decorators := d.routes.filterMap fun r =>
    r.operation.decorateServer.map fun name => (name, fun _ body => body)

theorem Document.namedIn_standIns (d : Document) : d.NamedIn d.standIns := by
  intro r listed
  constructor
  · intro name called
    have among : (name, HandlerPolicy.stubHandler name) ∈ d.standIns.handlers :=
      List.mem_filterMap.mpr ⟨r, listed, by rw [Option.mem_def.mp called]; rfl⟩
    exact Members.isSome_lookup_iff.mpr (List.mem_map_of_mem (f := Prod.fst) among)
  · intro name called
    have among : (name, fun _ body => body) ∈ d.standIns.decorators :=
      List.mem_filterMap.mpr ⟨r, listed, by rw [Option.mem_def.mp called]; rfl⟩
    exact Members.isSome_lookup_iff.mpr (List.mem_map_of_mem (f := Prod.fst) among)

/-- Every table can be completed with the names of a document. -/
theorem HandlerTable.exists_adds_named (t : HandlerTable) (d : Document) :
    ∃ added u : HandlerTable, u.Adds added t ∧ d.NamedIn u :=
  have adds := d.standIns.adds_before t
  ⟨_, _, adds, adds.namedIn d.namedIn_standIns⟩

section Added

variable {t u added : HandlerTable} {name label : String} {r : Route} {api : String} {d : Document}

/-- What is added for a name takes the place of what was found before, and of a stand-in. -/
theorem HandlerPolicy.resolve_added {α : Type} {before extra after : Option α}
    {standIn other : α} (adds : after = extra.or before) (named : after.isSome) :
    require.resolve after other label name =
      (stub.resolve before standIn label name).map extra.getD := by
  subst adds
  cases extra with
  | some a => cases before <;> rfl
  | none =>
    obtain ⟨a, rfl⟩ := Option.isSome_iff_exists.mp named
    rfl

/-- With a function for each of its names, an operation is bound as without those that have been
added, save for these. -/
theorem Route.bind_withFunctions (adds : u.Adds added t) (named : r.NamedIn u) :
    r.bind api d u .require = (r.bind api d t .stub).map (Binding.withFunctions added) := by
  rw [bind, bind]
  refine bind_map rfl fun signature => bind_map rfl fun _ => ?_
  refine bind_map rfl fun produces => bind_map rfl fun results => ?_
  cases called : r.operation.handlerName with
  | none => rfl
  | some name =>
    simp only [HandlerPolicy.handler_eq_resolve, HandlerPolicy.decorator_eq_resolve]
    have known := named.handler name called
    refine bind_map_of_each (HandlerPolicy.resolve_added (adds.handler name) known) fun h => ?_
    cases decorated : r.operation.decorateServer with
    | none => rfl
    | some other =>
      have known := named.decorator other decorated
      refine bind_map_of_each (g := Option.map (added.decorator? other).getD) ?_ fun f => rfl
      exact bind_map_of_each (HandlerPolicy.resolve_added (adds.decorator other) known)
        fun f => rfl

/-- With a function for each of its names, a document is compiled as without those that have been
added, save for these, or refused for the same reason. -/
theorem compileEndpoints_withFunctions (adds : u.Adds added t) (named : d.NamedIn u) :
    compileEndpoints api d u .require =
      (compileEndpoints api d t .stub).map (List.map (Binding.withFunctions added)) :=
  mapM_map_of_each fun r listed => Route.bind_withFunctions adds (named r listed)

end Added

/-- When a document is compiled with all handlers required, it is compiled without that to the
same bindings, with the same functions; and when it is refused for another reason than a missing
name, it is refused for that reason. The table can be given functions for all names of the
document, and however that is done, the document is then compiled with handlers required in the
cases in which it was compiled before without, to the same bindings save for the functions that
have been added. -/
theorem compileEndpoints_stub (api : String) (d : Document) (t : HandlerTable) :
    (∀ bindings, compileEndpoints api d t .require = .ok bindings →
      compileEndpoints api d t .stub = .ok bindings) ∧
    (∀ e, compileEndpoints api d t .require = .error e →
      (∀ operation name, e ≠ .unresolvedHandler operation name) →
        compileEndpoints api d t .stub = .error e) ∧
    (∃ added u : HandlerTable, u.Adds added t ∧ d.NamedIn u) ∧
    ∀ added u : HandlerTable, u.Adds added t → d.NamedIn u →
      compileEndpoints api d u .require =
        (compileEndpoints api d t .stub).map (List.map (Binding.withFunctions added)) := by
  refine ⟨fun bindings compiled => compileEndpoints_agreesUnless.eq_ok compiled, ?_,
    t.exists_adds_named d, ?_⟩
  · intro e refused other
    apply compileEndpoints_agreesUnless.eq_error refused
    rintro ⟨operation, name, same⟩
    exact other operation name same
  · intro added u adds named
    exact compileEndpoints_withFunctions adds named

/-! ### Posts on a board -/

/-- The operation that lists the posts. -/
def listPosts : Operation where
  operationId := some "list_posts"
  responses := [("200", some "#/definitions/Post")]

/-- The operation that adds a post, with a stamp, if it can tell what was added. -/
def addPost (responses : List (String × Option String)) : Operation where
  operationId := some "add_post"
  decorateServer := some "stamp"
  responses := responses

/-- A document with both operations. -/
def board (responses : List (String × Option String)) : Document where
  format := .string "2.0"
  definitions := [("Post", {})]
  paths := [("/posts", [("GET", listPosts), ("POST", addPost responses)])]

/-- A handler that answers with nothing after some milliseconds. -/
def waitFor (ms : Nat) : Handler := fun _ => { ending := .answered .nothing, steps := [.waits ms] }

/-- A decorator that drops the body. -/
def dropBody : Decorator := fun _ _ => .null

/-- The table that has the first operation only. -/
def readingPosts : HandlerTable := { handlers := [("list_posts", waitFor 1)] }

/-- The functions of the second operation. -/
def writingPosts : HandlerTable :=
  { handlers := [("add_post", waitFor 2)], decorators := [("stamp", dropBody)] }

/-- The binding of the first operation. -/
def postsListed : Binding where
  api := "board"
  method := "GET"
  route := "/posts"
  params := []
  bodyModel := none
  handlerName := "list_posts"
  handler := waitFor 1
  decoratorName := none
  decorator := none
  results := ["Post"]
  produces := jsonMediaType

/-- The binding of the second operation, to some functions. -/
def postAdded (handler : Handler) (decorator : Decorator) : Binding where
  api := "board"
  method := "POST"
  route := "/posts"
  params := []
  bodyModel := none
  handlerName := "add_post"
  handler := handler
  decoratorName := some "stamp"
  decorator := some decorator
  results := ["Post"]
  produces := jsonMediaType

/-- Without the functions of the second operation the document is refused, or they are stood in
for. With them it is compiled under both policies. When the second operation has no responses,
both policies say so, although its functions are missing. -/
theorem compileEndpoints_stub_board :
    compileEndpoints "board" (board [("200", some "#/definitions/Post")]) readingPosts .require =
        .error (.unresolvedHandler "POST /posts" "add_post") ∧
      compileEndpoints "board" (board [("200", some "#/definitions/Post")]) readingPosts .stub =
        .ok [postsListed, postAdded (HandlerPolicy.stubHandler "add_post") fun _ body => body] ∧
      compileEndpoints "board" (board [("200", some "#/definitions/Post")])
          (readingPosts.merge writingPosts) .require =
        .ok [postsListed, postAdded (waitFor 2) dropBody] ∧
      compileEndpoints "board" (board [("200", some "#/definitions/Post")])
          (readingPosts.merge writingPosts) .stub =
        .ok [postsListed, postAdded (waitFor 2) dropBody] ∧
      compileEndpoints "board" (board []) readingPosts .require =
        .error (.invalidOperation "POST /posts" "no responses declared") ∧
      compileEndpoints "board" (board []) readingPosts .stub =
        .error (.invalidOperation "POST /posts" "no responses declared") := by
  obtain ⟨_, _, _, completed⟩ :=
    compileEndpoints_stub "board" (board [("200", some "#/definitions/Post")]) readingPosts
  obtain ⟨compiled, _, _, _⟩ := compileEndpoints_stub "board"
    (board [("200", some "#/definitions/Post")]) (readingPosts.merge writingPosts)
  obtain ⟨_, refused, _, _⟩ := compileEndpoints_stub "board" (board []) readingPosts
  have stubbed : compileEndpoints "board" (board [("200", some "#/definitions/Post")]) readingPosts
      .stub = .ok [postsListed,
        postAdded (HandlerPolicy.stubHandler "add_post") fun _ body => body] := rfl
  have full : compileEndpoints "board" (board [("200", some "#/definitions/Post")])
      (readingPosts.merge writingPosts) .require =
        .ok [postsListed, postAdded (waitFor 2) dropBody] := by
    have named : (board [("200", some "#/definitions/Post")]).NamedIn
        (readingPosts.merge writingPosts) := by
      intro r listed
      rcases List.mem_pair.mp listed with rfl | rfl
      · exact ⟨fun name called => by cases called; rfl, fun name called => nomatch called⟩
      · exact ⟨fun name called => by cases called; rfl, fun name called => by cases called; rfl⟩
    rw [completed writingPosts _ (HandlerTable.adds_merge (by decide) (by decide)) named, stubbed]
    rfl
  exact ⟨rfl, stubbed, full, compiled _ full, rfl, refused _ rfl nofun⟩

end ApiContract
