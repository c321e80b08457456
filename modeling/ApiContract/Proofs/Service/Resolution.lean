import ApiContract.Proofs.Service.Routes
import ApiContract.Proofs.Service.Template

/-!
# Which binding answers a path

A table is filled by calls that add one binding each; a call that would make two bindings of
one method and one shape fails and leaves the table as it is, and so does one whose template the
engine refuses. Whatever the order of the calls, a path is answered by the binding that comes first
among those of its method that serve the path: by fewest braces, then by the longest template, then
by the order of the calls. This is so for every lawful engine.

Sorting after each call keeps the bindings in order. The one that is added goes behind all those
that it does not precede, and as every binding is added with the greatest number so far, ties are
left to the earlier one.

## Main definitions

* `Binding.Serves` — a binding whose template stands for a path
* `RouteTable.afterInserts`, `RouteTable.added` — the table after some calls, and the bindings
  that they have added
* `RouteTable.Ahead` — the order in which numbered bindings are tried
* `RouteTable.Resolves` — what a method and a path lead to, said of the added bindings

## Main results

* `RouteTable.Ranked.insert` — a call that succeeds keeps the bindings in order
* `RouteTable.ranked_afterInserts` — so do all calls
* `RouteTable.resolve_afterInserts` — every resolution after every sequence of calls
-/

namespace ApiContract

/-- A binding whose template stands for a path. -/
def Binding.Serves (b : Binding) (path : String) : Prop :=
  ∃ pieces, Template.Spells b.route pieces path

namespace RouteTable

/-! ### Calls that add bindings -/

/-- The table after a call to add a binding, whether it has succeeded or not. -/
def afterInsert (E : RegexEngine) (t : RouteTable) (b : Binding) : RouteTable :=
  ((addWith E b).on t).2

/-- The table after calls to add bindings, one after another. -/
def afterInserts (E : RegexEngine) (bindings : List Binding) : RouteTable :=
  bindings.foldl (afterInsert E) empty

/-- The bindings that calls add to a table, in the order of the calls. -/
def added (E : RegexEngine) (t : RouteTable) : List Binding → List Binding
  | [] => []
  | b :: rest =>
    match t.insertWith E b with
    | .ok next => b :: added E next rest
    | .error _ => added E t rest

/-- The order in which bindings are tried, each with its number in the order of the calls:
those with fewer braces come first, then those with a longer template, then those that were
added earlier. -/
def Ahead (p q : Binding × Nat) : Prop :=
  Template.openings p.1.route < Template.openings q.1.route ∨
    Template.openings p.1.route = Template.openings q.1.route ∧
      (q.1.route.utf8ByteSize < p.1.route.utf8ByteSize ∨
        p.1.route.utf8ByteSize = q.1.route.utf8ByteSize ∧ p.2 < q.2)

/-- What a method and a path lead to, given the added bindings in the order of the calls. -/
inductive Resolves (stored : List Binding) (method path : String) : Resolution → Prop
  | matched (b : Binding) (i : Nat) (pieces : List String) (params : List (String × String))
      (member : stored[i]? = some b) (same : b.method = method)
      (spells : Template.Spells b.route pieces path)
      (first : ∀ c j, stored[j]? = some c → c.method = method → c.Serves path →
        j = i ∨ Ahead (b, i) (c, j))
      (distinct : (Members.keys params).Nodup)
      (values : ∀ name raw, Members.lookup name params = some raw ↔
        Template.Binds (Template.texts b.route) pieces name raw) :
      Resolves stored method path (.matched b params)
  | methodNotAllowed (allowed : List String) (served : ∃ b ∈ stored, b.Serves path)
      (others : ∀ b ∈ stored, b.Serves path → b.method ≠ method) (distinct : allowed.Nodup)
      (methods : ∀ m, m ∈ allowed ↔ ∃ b ∈ stored, b.Serves path ∧ b.method = m) :
      Resolves stored method path (.methodNotAllowed allowed)
  | notFound (none : ∀ b ∈ stored, ¬ b.Serves path) : Resolves stored method path .notFound

variable {E : RegexEngine} {t t' : RouteTable} {b c : Binding} {bindings stored : List Binding}
  {ranked : List (Binding × Nat)} {method path : String} {values : List String}

/-! ### The order of a table -/

/-- The bindings of a table are in order: those that were added, each with its number. -/
structure Ranked (stored : List Binding) (t : RouteTable) (ranked : List (Binding × Nat)) :
    Prop where
  bindings : ranked.map Prod.fst = t.bindings
  perm : ranked.Perm stored.zipIdx
  sorted : ranked.Pairwise Ahead

theorem mem_ranked (ranks : Ranked stored t ranked) {i : Nat} :
    (b, i) ∈ ranked ↔ stored[i]? = some b := by
  rw [ranks.perm.mem_iff, List.mem_zipIdx_iff_getElem?]

/-- The bindings of a table stand in the order in which they are tried. -/
theorem Ranked.sorted_bindings (ranks : Ranked stored t ranked) : Sorted t.bindings := by
  rw [Sorted, ← ranks.bindings, List.pairwise_map]
  refine ranks.sorted.imp fun {p q} ahead => ?_
  rw [precedes_iff]
  dsimp only [Ahead] at ahead
  omega

/-- A call that succeeds keeps the bindings in order. -/
theorem Ranked.insert (ranks : Ranked stored t ranked) (inserted : t.insertWith E b = .ok t') :
    ∃ next, Ranked (stored ++ [b]) t' next := by
  obtain ⟨_, _, rfl⟩ := insertWith_eq_ok_iff.mp inserted
  obtain ⟨front, back, cut, placed, before, behind⟩ := exists_sort ranks.sorted_bindings b
  obtain ⟨low, high, rfl, lower, higher⟩ :=
    List.map_eq_append_iff.mp (ranks.bindings.trans cut)
  have new : ∀ p ∈ low ++ high, p.2 < stored.length := by
    intro p member
    have listed := ranks.perm.mem_iff.mp member
    exact (List.getElem?_eq_some_iff.mp (List.mem_zipIdx_iff_getElem?.mp listed)).1
  obtain ⟨lowSorted, highSorted, across⟩ := List.pairwise_append.mp ranks.sorted
  refine ⟨low ++ (b, stored.length) :: high, ?_, ?_, ?_⟩
  · rw [List.map_append, List.map_cons, lower, higher, placed]
  · -- The new binding has the number behind all others.
    rw [List.zipIdx_append, Nat.zero_add]
    exact List.perm_middle.trans ((ranks.perm.cons _).trans (List.perm_append_singleton _ _).symm)
  · -- In front are bindings that it does not precede, and these were added before.
    have above : ∀ p ∈ low, Ahead p (b, stored.length) := by
      intro p member
      have earlier := new p (List.mem_append_left _ member)
      have notBehind := before p.1 (lower ▸ List.mem_map_of_mem member)
      rw [precedes_iff] at notBehind
      dsimp only [Ahead]
      omega
    -- It precedes the first of the others, which is ahead of the rest of them.
    have below : ∀ q ∈ high, Ahead (b, stored.length) q := by
      cases high with
      | nil => exact List.forall_mem_nil _
      | cons head tail =>
        have next : Template.precedes b.route head.1.route :=
          behind head.1 (by rw [← higher]; rfl)
        rw [precedes_iff] at next
        rw [List.forall_mem_cons]
        constructor
        · dsimp only [Ahead]
          omega
        · intro q member
          have later := (List.pairwise_cons.mp highSorted).1 q member
          dsimp only [Ahead] at later ⊢
          omega
    refine List.pairwise_append.mpr ⟨lowSorted, List.pairwise_cons.mpr ⟨below, highSorted⟩, ?_⟩
    intro p inFront q member
    rcases List.mem_cons.mp member with rfl | behind
    · exact above p inFront
    · exact across p inFront q behind

theorem afterInsert_of_ok (inserted : t.insertWith E b = .ok t') : afterInsert E t b = t' := by
  rw [afterInsert, Change.result_eq_ok_iff.mp inserted]

/-- A call that fails leaves the table as it is. -/
theorem afterInsert_of_error {e : RouteConflict} (refused : t.insertWith E b = .error e) :
    afterInsert E t b = t := by
  rw [insertWith, Change.result_eq_error_iff, addWith_on] at refused
  rw [afterInsert, addWith_on]
  by_cases taken : t.bindings.any (clash b)
  · rw [if_pos taken]
  · rw [if_neg taken] at refused ⊢
    cases compiled : Template.compile E b.route with
    | error details => rfl
    | ok r =>
      rw [compiled] at refused
      cases refused

theorem Ranked.empty : Ranked [] empty [] :=
  ⟨rfl, .nil, .nil⟩

private theorem ranked_foldl (ranks : Ranked stored t ranked) :
    ∃ next, Ranked (stored ++ added E t bindings) (bindings.foldl (afterInsert E) t) next := by
  -- On the calls that are left; the table and its numbering change with each that succeeds.
  induction bindings generalizing t stored ranked with
  | nil =>
    rw [added, List.append_nil]
    exact ⟨ranked, ranks⟩
  | cons b rest ih =>
    rw [List.foldl_cons, added]
    cases inserted : t.insertWith E b with
    | error e =>
      rw [afterInsert_of_error inserted]
      exact ih ranks
    | ok next =>
      rw [afterInsert_of_ok inserted]
      obtain ⟨_, onward⟩ := ranks.insert inserted
      simpa using ih onward

/-- After all calls the bindings are in order. -/
theorem ranked_afterInserts (E : RegexEngine) (bindings : List Binding) :
    ∃ ranked, Ranked (added E empty bindings) (afterInserts E bindings) ranked :=
  ranked_foldl Ranked.empty

/-- Whatever the calls, the engine has accepted the templates of the table. -/
theorem accepted_afterInserts (E : RegexEngine) (bindings : List Binding) :
    ∀ b ∈ (afterInserts E bindings).bindings, ∃ r, Template.compile E b.route = .ok r := by
  rw [afterInserts]
  have start : ∀ b ∈ empty.bindings, ∃ r, Template.compile E b.route = .ok r := nofun
  generalize empty = t at start
  induction bindings generalizing t with
  | nil => exact start
  | cons b rest ih =>
    rw [List.foldl_cons]
    apply ih
    cases inserted : t.insertWith E b with
    | error e =>
      rw [afterInsert_of_error inserted]
      exact start
    | ok next =>
      rw [afterInsert_of_ok inserted]
      obtain ⟨_, compiled, rfl⟩ := insertWith_eq_ok_iff.mp inserted
      intro c member
      rcases List.mem_cons.mp ((perm_sort_concat t.bindings b).mem_iff.mp member) with rfl | old
      · exact compiled
      · exact start c old

/-! ### The first that matches -/

theorem matches_iff : Matches path b ↔ b.Serves path := by
  rw [Matches, Option.isSome_iff_exists]
  constructor
  · rintro ⟨values, found⟩
    obtain ⟨pieces, spells, _⟩ := Template.spells_of_capture? found
    exact ⟨pieces, spells⟩
  · rintro ⟨pieces, spells⟩
    exact spells.exists_capture?

theorem Ranked.mem_iff (ranks : Ranked stored t ranked) : b ∈ t.bindings ↔ b ∈ stored := by
  rw [← ranks.bindings, List.mem_map]
  constructor
  · rintro ⟨⟨b, i⟩, member, rfl⟩
    exact List.mem_of_getElem? ((mem_ranked ranks).mp member)
  · intro member
    obtain ⟨i, found⟩ := List.mem_iff_getElem?.mp member
    exact ⟨(b, i), (mem_ranked ranks).mpr found, rfl⟩

/-- The first candidate of a method is ahead of all others. -/
private theorem first_candidate (sorted : ranked.Pairwise Ahead)
    (found : ((ranked.map Prod.fst).filterMap fun b =>
      (Template.capture? b.route path).map fun values => (b, values)).find?
        (fun c => c.1.method == method) = some (b, values)) :
    ∃ i, (b, i) ∈ ranked ∧ Template.capture? b.route path = some values ∧ b.method = method ∧
      ∀ q ∈ ranked, q.1.method = method → Matches path q.1 → q = (b, i) ∨ Ahead (b, i) q := by
  induction ranked with
  | nil => cases found
  | cons p rest ih =>
    obtain ⟨ahead, sorted⟩ := List.pairwise_cons.mp sorted
    rw [List.map_cons, List.filterMap_cons] at found
    -- Either the first binding is the candidate, or it is none of this method and path.
    by_cases here : p.1.method = method ∧ Matches path p.1
    · obtain ⟨same, fits⟩ := here
      obtain ⟨captured, read⟩ := Option.isSome_iff_exists.mp fits
      have first : p.1 = b ∧ captured = values := by simpa [read, same] using found
      obtain ⟨rfl, rfl⟩ := first
      refine ⟨p.2, List.mem_cons_self, read, same, ?_⟩
      intro q member _ _
      rcases List.mem_cons.mp member with rfl | later
      · exact .inl rfl
      · exact .inr (ahead q later)
    · have later : ((rest.map Prod.fst).filterMap fun b =>
          (Template.capture? b.route path).map fun values => (b, values)).find?
            (fun c => c.1.method == method) = some (b, values) := by
        cases read : Template.capture? p.1.route path with
        | none => simpa [read] using found
        | some captured =>
          have fits : Matches path p.1 := Option.isSome_of_mem read
          have differ : p.1.method ≠ method := fun same => here ⟨same, fits⟩
          simpa [read, differ] using found
      obtain ⟨i, member, read, same, first⟩ := ih sorted later
      refine ⟨i, List.mem_cons_of_mem _ member, read, same, ?_⟩
      intro q inList method fits
      rcases List.mem_cons.mp inList with rfl | behind
      · exact absurd ⟨method, fits⟩ here
      · exact first q behind method fits

/-- A binding that is found is the first one, and its names have the values of the path. -/
theorem Ranked.resolves_matched (ranks : Ranked stored t ranked)
    {params : List (String × String)} (resolved : t.resolution method path = .matched b params) :
    Resolves stored method path (.matched b params) := by
  rw [resolution] at resolved
  cases found : (t.candidates path).find? fun c => c.1.method == method with
  | none =>
    simp only [found] at resolved
    split at resolved <;> cases resolved
  | some c =>
    obtain ⟨b, values⟩ := c
    simp only [found, Resolution.matched.injEq] at resolved
    obtain ⟨rfl, rfl⟩ := resolved
    -- The candidates stand in the order of the table, so the first of them is ahead.
    rw [candidates, ← ranks.bindings] at found
    obtain ⟨i, member, read, same, first⟩ := first_candidate ranks.sorted found
    obtain ⟨pieces, spells, pairs⟩ := Template.spells_of_capture? read
    apply Resolves.matched b i pieces _ ((mem_ranked ranks).mp member) same spells
    · intro c j listed method serves
      have tried := first (c, j) ((mem_ranked ranks).mpr listed) method (matches_iff.mpr serves)
      exact tried.imp_left (congrArg Prod.snd)
    · exact Members.nodup_keys_putAll _
    · intro name raw
      rw [pathParams, Members.lookup_putAll, pairs, Template.lookup_captured spells.fits]

/-- The methods of a path are those of the bindings that serve it, each once. -/
theorem Ranked.resolves_methodNotAllowed (ranks : Ranked stored t ranked) {allowed : List String}
    (resolved : t.resolution method path = .methodNotAllowed allowed) :
    Resolves stored method path (.methodNotAllowed allowed) := by
  obtain ⟨⟨b, member, fits⟩, others⟩ := resolution_methodNotAllowed resolved
  have listed := allowed_of_resolution resolved
  apply Resolves.methodNotAllowed
  · exact ⟨b, ranks.mem_iff.mp member, matches_iff.mp fits⟩
  · intro c stored serves
    exact others c (ranks.mem_iff.mpr stored) (matches_iff.mpr serves)
  · rw [listed]
    exact Members.nodup_distinct _
  · intro m
    rw [listed, Members.mem_distinct, List.mem_map]
    constructor
    · rintro ⟨c, candidate, rfl⟩
      obtain ⟨stored, fits⟩ := exists_mem_candidates.mp ⟨c.2, candidate⟩
      exact ⟨c.1, ranks.mem_iff.mp stored, matches_iff.mp fits, rfl⟩
    · rintro ⟨c, stored, serves, rfl⟩
      obtain ⟨values, candidate⟩ :=
        exists_mem_candidates.mpr ⟨ranks.mem_iff.mpr stored, matches_iff.mpr serves⟩
      exact ⟨(c, values), candidate, rfl⟩

/-- Whatever is resolved is resolved as the added bindings say. -/
theorem Ranked.resolves (ranks : Ranked stored t ranked) (method path : String) :
    Resolves stored method path (t.resolution method path) := by
  cases resolved : t.resolution method path with
  | matched b params => exact ranks.resolves_matched resolved
  | methodNotAllowed allowed => exact ranks.resolves_methodNotAllowed resolved
  | notFound =>
    apply Resolves.notFound
    intro b member serves
    exact resolution_notFound resolved b (ranks.mem_iff.mpr member) (matches_iff.mpr serves)

namespace Resolves

variable {r : Resolution}

/-- A binding of the method serves the path exactly when one is found. -/
theorem exists_matched_iff (resolves : Resolves stored method path r) :
    (∃ b params, r = .matched b params) ↔ ∃ b ∈ stored, b.method = method ∧ b.Serves path := by
  cases resolves with
  | matched b i pieces params member same spells first distinct values =>
    exact ⟨fun _ => ⟨b, List.mem_of_getElem? member, same, pieces, spells⟩,
      fun _ => ⟨b, params, rfl⟩⟩
  | methodNotAllowed allowed served others distinct methods =>
    constructor
    · rintro ⟨_, _, same⟩
      cases same
    · rintro ⟨b, member, same, serves⟩
      exact absurd same (others b member serves)
  | notFound none =>
    constructor
    · rintro ⟨_, _, same⟩
      cases same
    · rintro ⟨b, member, _, serves⟩
      exact absurd serves (none b member)

/-- Only bindings of other methods serve the path exactly when the method is refused. -/
theorem exists_methodNotAllowed_iff (resolves : Resolves stored method path r) :
    (∃ allowed, r = .methodNotAllowed allowed) ↔
      (∃ b ∈ stored, b.Serves path) ∧ ∀ b ∈ stored, b.Serves path → b.method ≠ method := by
  cases resolves with
  | matched b i pieces params member same spells first distinct values =>
    constructor
    · rintro ⟨_, same⟩
      cases same
    · rintro ⟨_, others⟩
      exact absurd same (others b (List.mem_of_getElem? member) ⟨pieces, spells⟩)
  | methodNotAllowed allowed served others distinct methods =>
    exact ⟨fun _ => ⟨served, others⟩, fun _ => ⟨allowed, rfl⟩⟩
  | notFound none =>
    constructor
    · rintro ⟨_, same⟩
      cases same
    · rintro ⟨⟨b, member, serves⟩, _⟩
      exact absurd serves (none b member)

/-- No binding serves the path exactly when nothing is found. -/
theorem eq_notFound_iff (resolves : Resolves stored method path r) :
    r = .notFound ↔ ∀ b ∈ stored, ¬ b.Serves path := by
  cases resolves with
  | matched b i pieces params member same spells first distinct values =>
    constructor
    · intro same
      cases same
    · intro none
      exact absurd ⟨pieces, spells⟩ (none b (List.mem_of_getElem? member))
  | methodNotAllowed allowed served others distinct methods =>
    constructor
    · intro same
      cases same
    · intro none
      obtain ⟨b, member, serves⟩ := served
      exact absurd serves (none b member)
  | notFound none => exact ⟨fun _ => none, fun _ => rfl⟩

end Resolves

/-- A call that fails has no part in the table. -/
theorem afterInserts_refused {before after : List Binding} {e : RouteConflict}
    (refused : (afterInserts E before).insertWith E b = .error e) :
    afterInserts E (before ++ b :: after) = afterInserts E (before ++ after) := by
  have same := afterInsert_of_error refused
  rw [afterInserts, afterInserts, List.foldl_append, List.foldl_append, List.foldl_cons]
  exact congrArg (List.foldl (afterInsert E) · after) same

/-- With every lawful engine, after every sequence of calls, every method and path is resolved as
the bindings say that the calls have added: to the first of the method that serves the path, with
the values of its names, if there is one; to the methods that the path has instead, each once, if
there are such; and to nothing if no binding serves the path. A call that fails, for whatever
reason, changes no resolution. -/
theorem resolve_afterInserts (lawful : E.Lawful) (bindings : List Binding) (method path : String) :
    Resolves (added E empty bindings) method path
        ((afterInserts E bindings).resolveWith E method path) ∧
      ((∃ b params, (afterInserts E bindings).resolveWith E method path = .matched b params) ↔
        ∃ b ∈ added E empty bindings, b.method = method ∧ b.Serves path) ∧
      ((∃ allowed, (afterInserts E bindings).resolveWith E method path =
          .methodNotAllowed allowed) ↔
        (∃ b ∈ added E empty bindings, b.Serves path) ∧
          ∀ b ∈ added E empty bindings, b.Serves path → b.method ≠ method) ∧
      ((afterInserts E bindings).resolveWith E method path = .notFound ↔
        ∀ b ∈ added E empty bindings, ¬ b.Serves path) ∧
      ∀ before after b e, bindings = before ++ b :: after →
        (afterInserts E before).insertWith E b = .error e →
          (afterInserts E bindings).resolveWith E method path =
            (afterInserts E (before ++ after)).resolveWith E method path := by
  obtain ⟨_, ranks⟩ := ranked_afterInserts E bindings
  have resolves := ranks.resolves method path
  rw [← resolveWith_eq lawful (accepted_afterInserts E bindings)] at resolves
  refine ⟨resolves, resolves.exists_matched_iff, resolves.exists_methodNotAllowed_iff,
    resolves.eq_notFound_iff, ?_⟩
  rintro before after b e rfl refused
  rw [afterInserts_refused refused]

/-! ### Pages of a site -/

/-- The binding that gets a page under a route, without a handler. -/
def page (route : String) : Binding where
  api := "site"
  method := "GET"
  route := route
  params := []
  bodyModel := none
  handlerName := "get_page"
  handler := HandlerPolicy.stubHandler "get_page"
  decoratorName := none
  decorator := none
  results := ["Page"]
  produces := jsonMediaType

/-- Pages on news. The last one has the shape of the first, and is refused. -/
def news : List Binding := [page "/news/\x7bid\x7d", page "/news", page "/news/\x7bno\x7d"]

theorem added_news : (added Regex.engine empty news).map (fun b => (b.method, b.route)) =
    [("GET", "/news/\x7bid\x7d"), ("GET", "/news")] := by
  decide +kernel

/-- A path with a slash at its end is answered by the page that its pieces spell. -/
theorem resolve_afterInserts_news :
    Regex.engine.Lawful ∧ ∃ b params, (afterInserts Regex.engine news).resolveWith Regex.engine
      "GET" "/news/7/" = .matched b params := by
  have listed : ("GET", "/news/\x7bid\x7d") ∈
      (added Regex.engine empty news).map fun b => (b.method, b.route) := by
    rw [added_news]
    exact List.mem_cons_self
  obtain ⟨b, member, same⟩ := List.mem_map.mp listed
  obtain ⟨method, route⟩ := Prod.mk.inj same
  have fits : Matches "/news/7/" b := by
    rw [Matches, route]
    decide +kernel
  obtain ⟨_, matched, _⟩ :=
    resolve_afterInserts Regex.lawful_engine news "GET" "/news/7/"
  exact ⟨Regex.lawful_engine, matched.mpr ⟨b, member, method, matches_iff.mp fits⟩⟩

end RouteTable

end ApiContract
