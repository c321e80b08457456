import ApiContract.Proofs.Fallible
import ApiContract.Proofs.Service.Pattern
import ApiContract.Service.Routes
import Mathlib.Data.List.Induction

/-!
# What a route table resolves to

A path belongs to the bindings whose template matches it, and the method decides between
them. Which template matches is the same for every lawful engine, so that what is resolved can be
told by cutting the path at its slashes. A binding is found by its method and its route only, so
that other handlers in a table leave every resolution as it is.

## Main definitions

* `Binding.key` — what no two bindings of a table have in common
* `RouteTable.Matches` — the template of a binding matches a path
* `RouteTable.candidates`, `RouteTable.resolution` — the bindings whose template matches a path,
  and what they lead to
* `RouteTable.withHandlers` — a table whose bindings have other handlers

## Main results

* `RouteTable.exists_sort` — where a further binding of a sorted list goes
* `RouteTable.mem_of_ofBindings` — a table holds nothing but what was added
* `RouteTable.exists_ofBindings_iff` — when bindings form a table
* `RouteTable.resolveWith_eq` — what a table with a lawful engine leads to
* `RouteTable.resolution_matched`, `RouteTable.resolution_methodNotAllowed`,
  `RouteTable.resolution_notFound` — what each resolution says of the table
* `RouteTable.resolve_withHandlers` — resolutions do not depend on the handlers
-/

namespace ApiContract

/-- What no two bindings of a table have in common: the method, and the template without the
names of its parameters. -/
def Binding.key (b : Binding) : String × List String := (b.method, Template.shape b.route)

namespace RouteTable

variable {t t' : RouteTable} {b x : Binding} {bindings : List Binding} {method path : String}

/-! ### Sorting bindings -/

/-- Bindings in the order in which they are tried: none precedes an earlier one. -/
def Sorted (bindings : List Binding) : Prop :=
  bindings.Pairwise fun a b => ¬ Template.precedes b.route a.route

theorem precedes_iff {a b : String} : Template.precedes a b ↔
    Template.openings a < Template.openings b ∨
      Template.openings a = Template.openings b ∧ b.utf8ByteSize < a.utf8ByteSize := by
  simp [Template.precedes]

/-- A binding is placed between those that it does not precede and one that it precedes. -/
theorem exists_place (b : Binding) (bindings : List Binding) :
    ∃ front back, bindings = front ++ back ∧ place b bindings = front ++ b :: back ∧
      (∀ c ∈ front, ¬ Template.precedes b.route c.route) ∧
        ∀ c ∈ back.head?, Template.precedes b.route c.route := by
  induction bindings with
  | nil => exact ⟨[], [], rfl, rfl, by simp, by simp⟩
  | cons other rest ih =>
    by_cases first : Template.precedes b.route other.route
    · refine ⟨[], other :: rest, rfl, by simp [place, first], by simp, ?_⟩
      simpa using first
    · obtain ⟨front, back, cut, placed, before, behind⟩ := ih
      refine ⟨other :: front, back, by simp [cut], by simp [place, first, placed], ?_, behind⟩
      rw [List.forall_mem_cons]
      exact ⟨first, before⟩

theorem perm_place (b : Binding) (bindings : List Binding) :
    (place b bindings).Perm (b :: bindings) := by
  obtain ⟨front, back, rfl, placed, _⟩ := exists_place b bindings
  rw [placed]
  exact List.perm_middle

theorem sorted_place (sorted : Sorted bindings) (b : Binding) : Sorted (place b bindings) := by
  obtain ⟨front, back, rfl, placed, before, behind⟩ := exists_place b bindings
  obtain ⟨inFront, inBack, across⟩ := List.pairwise_append.mp sorted
  -- The binding precedes the first of those behind it, which none of the others precedes.
  have below : ∀ c ∈ back, ¬ Template.precedes c.route b.route := by
    cases back with
    | nil => exact List.forall_mem_nil _
    | cons head tail =>
      have next := precedes_iff.mp (behind head rfl)
      rw [List.forall_mem_cons]
      constructor
      · rw [precedes_iff]
        omega
      · intro c later
        have last := (List.pairwise_cons.mp inBack).1 c later
        rw [precedes_iff] at last ⊢
        omega
  rw [placed]
  refine List.pairwise_append.mpr ⟨inFront, List.pairwise_cons.mpr ⟨below, inBack⟩, ?_⟩
  intro c earlier d member
  rcases List.mem_cons.mp member with rfl | later
  · exact before c earlier
  · exact across c earlier d later

theorem sort_append (bindings more : List Binding) : sort (bindings ++ more) =
    more.foldl (fun sorted b => place b sorted) (sort bindings) :=
  List.foldl_append

theorem sort_concat (bindings : List Binding) (b : Binding) :
    sort (bindings ++ [b]) = place b (sort bindings) :=
  sort_append bindings [b]

theorem perm_sort (bindings : List Binding) : (sort bindings).Perm bindings := by
  induction bindings using List.reverseRecOn with
  | nil => rfl
  | append_singleton front b ih =>
    rw [sort_concat]
    exact (perm_place b _).trans ((ih.cons b).trans (List.perm_append_singleton b front).symm)

theorem perm_sort_concat (bindings : List Binding) (b : Binding) :
    (sort (bindings ++ [b])).Perm (b :: bindings) :=
  (perm_sort _).trans (List.perm_append_singleton b bindings)

theorem sorted_sort (bindings : List Binding) : Sorted (sort bindings) := by
  induction bindings using List.reverseRecOn with
  | nil => exact .nil
  | append_singleton front b ih =>
    rw [sort_concat]
    exact sorted_place ih b

/-- Bindings in order stay as they are. -/
theorem sort_of_sorted (sorted : Sorted bindings) : sort bindings = bindings := by
  induction bindings using List.reverseRecOn with
  | nil => rfl
  | append_singleton front b ih =>
    obtain ⟨inFront, _, last⟩ := List.pairwise_append.mp sorted
    rw [sort_concat, ih inFront]
    -- It precedes none of the others, and is placed behind all of them.
    obtain ⟨before, back, rfl, placed, _, behind⟩ := exists_place b front
    cases back with
    | nil => simpa using placed
    | cons c rest =>
      have precedes := behind c rfl
      exact absurd precedes (last c (by simp) b (List.mem_singleton_self b))

/-- A further binding of a sorted list goes behind those that it does not precede, and in front of
one that it precedes. -/
theorem exists_sort (sorted : Sorted bindings) (b : Binding) :
    ∃ front back, bindings = front ++ back ∧ sort (bindings ++ [b]) = front ++ b :: back ∧
      (∀ c ∈ front, ¬ Template.precedes b.route c.route) ∧
        ∀ c ∈ back.head?, Template.precedes b.route c.route := by
  rw [sort_concat, sort_of_sorted sorted]
  exact exists_place b bindings

/-! ### Building tables -/

/-- A binding that clashes with one of the table, or whose template is refused, is not added, and
the table is left as it is. -/
theorem addWith_on (E : RegexEngine) (t : RouteTable) (b : Binding) : (addWith E b).on t =
    if t.bindings.any (clash b) then (.error (.taken b.method b.route), t)
    else match Template.compile E b.route with
      | .error details => (.error (.invalid b.route details), t)
      | .ok _ => (.ok (), { bindings := sort (t.bindings ++ [b]) }) := by
  rw [addWith, Change.on_get_bind]
  by_cases taken : t.bindings.any (clash b)
  · rw [if_pos taken, if_pos taken]
    rfl
  · rw [if_neg taken, if_neg taken]
    cases Template.compile E b.route with
    | error details => rfl
    | ok r => rfl

theorem insertWith_eq_ok_iff {E : RegexEngine} : t.insertWith E b = .ok t' ↔
    t.bindings.any (clash b) = false ∧ (∃ r, Template.compile E b.route = .ok r) ∧
      t' = { bindings := sort (t.bindings ++ [b]) } := by
  rw [insertWith, Change.result_eq_ok_iff, addWith_on]
  by_cases taken : t.bindings.any (clash b)
  · simp [taken]
  · cases compiled : Template.compile E b.route with
    | error details => simp [taken]
    | ok r => simp [taken, eq_comm]

theorem insert_eq_ok_iff : t.insert b = .ok t' ↔
    t.bindings.any (clash b) = false ∧ t' = { bindings := sort (t.bindings ++ [b]) } := by
  rw [insert, insertWith_eq_ok_iff]
  exact and_congr_right fun _ => and_iff_right (Template.exists_compile b.route)

theorem mem_insert (inserted : t.insert b = .ok t') :
    x ∈ t'.bindings ↔ x = b ∨ x ∈ t.bindings := by
  obtain ⟨_, rfl⟩ := insert_eq_ok_iff.mp inserted
  exact (perm_sort_concat t.bindings b).mem_iff.trans List.mem_cons

/-- A table holds nothing but what was added to it. -/
theorem mem_of_ofBindings (built : ofBindings bindings = .ok t) :
    ∀ b ∈ t.bindings, b ∈ bindings := by
  apply foldlM_invariant (fun t => ∀ b ∈ t.bindings, b ∈ bindings) _ built
  · intro b member
    cases member
  · intro before after added listed inserted known b member
    rcases (mem_insert inserted).mp member with rfl | earlier
    · exact listed
    · exact known b earlier

private theorem bindings_of_foldlM (sorted : Sorted t.bindings)
    (built : bindings.foldlM insert t = .ok t') :
    t'.bindings = sort (t.bindings ++ bindings) := by
  induction bindings generalizing t with
  | nil =>
    obtain rfl := Except.ok.inj built
    rw [List.append_nil, sort_of_sorted sorted]
  | cons b rest ih =>
    rw [List.foldlM_cons] at built
    obtain ⟨next, inserted, onward⟩ := bind_eq_ok.mp built
    obtain ⟨_, rfl⟩ := insert_eq_ok_iff.mp inserted
    calc t'.bindings
      _ = sort (sort (t.bindings ++ [b]) ++ rest) := ih (sorted_sort _) onward
      _ = sort ((t.bindings ++ [b]) ++ rest) := by
        rw [sort_append, sort_of_sorted (sorted_sort _), ← sort_append]
      _ = sort (t.bindings ++ b :: rest) := by rw [List.append_assoc, List.singleton_append]

/-- A table holds what was added to it, in the order in which it is tried. -/
theorem bindings_of_ofBindings (built : ofBindings bindings = .ok t) :
    t.bindings = sort bindings :=
  bindings_of_foldlM .nil built

/-! ### Tables without conflicts -/

theorem clash_iff {a b : Binding} : clash a b ↔ a.key = b.key := by
  simp [clash, Binding.key, Prod.ext_iff]

/-- A binding is added when no binding of the table has its key. -/
theorem exists_insert_iff : (∃ t', t.insert b = .ok t') ↔ b.key ∉ t.bindings.map Binding.key := by
  have clashes : t.bindings.any (clash b) ↔ b.key ∈ t.bindings.map Binding.key := by
    simp only [List.any_eq_true, clash_iff, List.mem_map, eq_comm (a := b.key)]
  simp only [insert_eq_ok_iff, ← clashes, Bool.not_eq_true, exists_and_left, exists_eq, and_true]

/-- Further bindings are all added exactly when the keys of the table and theirs are distinct. -/
theorem exists_foldlM_insert_iff (distinct : (t.bindings.map Binding.key).Nodup) :
    (∃ t', bindings.foldlM insert t = .ok t') ↔
      ((t.bindings ++ bindings).map Binding.key).Nodup := by
  -- On the bindings that are left; each that is added counts for those after it.
  induction bindings generalizing t with
  | nil =>
    rw [List.append_nil]
    exact ⟨fun _ => distinct, fun _ => ⟨t, rfl⟩⟩
  | cons b rest ih =>
    have moved : ((t.bindings ++ b :: rest).map Binding.key).Perm
        ((sort (t.bindings ++ [b]) ++ rest).map Binding.key) :=
      (List.perm_middle.trans ((perm_sort_concat t.bindings b).symm.append_right rest)).map _
    rw [moved.nodup_iff, List.foldlM_cons]
    cases inserted : t.insert b with
    | ok next =>
      obtain ⟨_, rfl⟩ := insert_eq_ok_iff.mp inserted
      refine ih (((perm_sort_concat t.bindings b).map _).nodup_iff.mpr ?_)
      exact List.nodup_cons.mpr ⟨exists_insert_iff.mp ⟨_, inserted⟩, distinct⟩
    | error e =>
      refine ⟨fun ⟨_, failed⟩ => (nomatch failed), fun apart => ?_⟩
      -- The keys of all are distinct, so that this binding is not refused.
      have fresh : b.key ∉ t.bindings.map Binding.key := by
        rw [List.map_append, List.nodup_append] at apart
        have first := ((perm_sort_concat t.bindings b).map Binding.key).nodup_iff.mp apart.1
        exact (List.nodup_cons.mp first).1
      obtain ⟨_, accepted⟩ := exists_insert_iff.mpr fresh
      rw [inserted] at accepted
      cases accepted

/-- Bindings form a table exactly when their keys are distinct. -/
theorem exists_ofBindings_iff :
    (∃ t, ofBindings bindings = .ok t) ↔ (bindings.map Binding.key).Nodup :=
  exists_foldlM_insert_iff List.nodup_nil

/-- Bindings of distinct keys form the table that holds them in order. -/
theorem ofBindings_of_nodup (distinct : (bindings.map Binding.key).Nodup) :
    ofBindings bindings = .ok { bindings := sort bindings } := by
  obtain ⟨t, built⟩ := exists_ofBindings_iff.mpr distinct
  rw [built, ← bindings_of_ofBindings built]

/-! ### Resolving -/

/-- The template of a binding matches a path. -/
def Matches (path : String) (b : Binding) : Prop :=
  (Template.capture? b.route path).isSome

/-- The bindings whose template matches a path, each with what its parameters stand for. -/
def candidates (t : RouteTable) (path : String) : List (Binding × List String) :=
  t.bindings.filterMap fun b => (Template.capture? b.route path).map fun values => (b, values)

/-- The values of the parameters of a template by name; of a repeated name the last. -/
def pathParams (route : String) (values : List String) : List (String × String) :=
  Members.putAll ((Template.paramNames route).zip values)

/-- What a method and a path lead to, by the bindings whose template matches the path. -/
def resolution (t : RouteTable) (method path : String) : Resolution :=
  match (t.candidates path).find? fun c => c.1.method == method with
  | some (b, values) => .matched b (pathParams b.route values)
  | none =>
    if (t.candidates path).isEmpty then .notFound
    else .methodNotAllowed (Members.distinct ((t.candidates path).map fun c => c.1.method))

/-- Bindings are scanned for the first one of the method that captures something of the path.
Those of other methods that do so on the way give the methods that the path has. -/
theorem scan_eq (E : RegexEngine) (method path : String) (seen : List String)
    (bindings : List Binding) : scan E method path (Members.distinct seen) bindings =
      let found := bindings.filterMap fun b => (capturesWith? E b path).map fun c => (b, c)
      match found.find? fun c => c.1.method == method with
      | some (b, captured) => .matched b (Members.putAll captured)
      | none =>
        let methods := seen ++ found.map fun c => c.1.method
        if methods.isEmpty then .notFound else .methodNotAllowed (Members.distinct methods) := by
  -- On the bindings that are left; those of other methods go over to the ones seen.
  induction bindings generalizing seen with
  | nil =>
    have none : (Members.distinct seen).isEmpty = seen.isEmpty := by
      cases seen with
      | nil => rfl
      | cons m rest =>
        have there : m ∈ Members.distinct (m :: rest) :=
          Members.mem_distinct.mpr List.mem_cons_self
        simpa using List.ne_nil_of_mem there
    simp [scan, none]
  | cons b rest ih =>
    rw [scan, List.filterMap_cons]
    cases captured : capturesWith? E b path with
    | none => exact ih seen
    | some values =>
      by_cases same : b.method = method
      · simp [same]
      · have known : (if (Members.distinct seen).contains b.method then Members.distinct seen
            else Members.distinct seen ++ [b.method]) = Members.distinct (seen ++ [b.method]) := by
          rw [Members.distinct_concat]
          simp only [List.contains_iff_mem, Members.mem_distinct]
        simp only [if_neg same, known, ih, Option.map_some]
        simp [same]

/-- A lawful engine captures for a binding what is found when the path is cut at its slashes. -/
theorem capturesWith?_eq {E : RegexEngine} (lawful : E.Lawful)
    (accepted : ∃ r, Template.compile E b.route = .ok r) (path : String) :
    capturesWith? E b path = (Template.capture? b.route path).map fun values =>
      (Template.paramNames b.route).zip values := by
  obtain ⟨r, compiled⟩ := accepted
  rw [capturesWith?, compiled]
  exact r.captures?_eq lawful compiled path

/-- With a lawful engine that has accepted all its templates, a table leads to what the bindings
lead to whose template matches the path. -/
theorem resolveWith_eq {E : RegexEngine} (lawful : E.Lawful)
    (accepted : ∀ b ∈ t.bindings, ∃ r, Template.compile E b.route = .ok r) (method path : String) :
    t.resolveWith E method path = t.resolution method path := by
  have found : (t.bindings.filterMap fun b => (capturesWith? E b path).map fun c => (b, c)) =
      (t.candidates path).map fun c => (c.1, (Template.paramNames c.1.route).zip c.2) := by
    rw [candidates, List.map_filterMap]
    apply List.filterMap_congr
    intro b member
    rw [capturesWith?_eq lawful (accepted b member), Option.map_map, Option.map_map]
    rfl
  have scanned := scan_eq E method path [] t.bindings
  simp only [found, List.find?_map, List.map_map, List.nil_append] at scanned
  refine scanned.trans ?_
  rw [resolution]
  have methods : (fun c : Binding × List String => c.1.method == method) =
      (fun c => c.1.method == method) ∘
        fun c => (c.1, (Template.paramNames c.1.route).zip c.2) := rfl
  rw [methods]
  cases (t.candidates path).find? _ with
  | some c => rfl
  | none =>
    simp only [Option.map_none, List.isEmpty_map]
    rfl

theorem resolve_eq (t : RouteTable) (method path : String) :
    t.resolve method path = t.resolution method path :=
  resolveWith_eq Regex.lawful_engine (fun b _ => Template.exists_compile b.route) method path

theorem exists_mem_candidates :
    (∃ values, (b, values) ∈ t.candidates path) ↔ b ∈ t.bindings ∧ Matches path b := by
  simp only [candidates, List.mem_filterMap, Option.map_eq_some_iff, Prod.mk.injEq, Matches,
    Option.isSome_iff_exists]
  constructor
  · rintro ⟨values, _, member, _, found, rfl, rfl⟩
    exact ⟨member, _, found⟩
  · rintro ⟨member, values, found⟩
    exact ⟨values, b, member, values, found, rfl, rfl⟩

/-- A binding that is found has the values of its parameters by their names. -/
theorem exists_capture_of_resolution {params : List (String × String)}
    (resolved : t.resolution method path = .matched b params) :
    b ∈ t.bindings ∧ b.method = method ∧ ∃ values,
      Template.capture? b.route path = some values ∧ params = pathParams b.route values := by
  rw [resolution] at resolved
  cases found : (t.candidates path).find? fun c => c.1.method == method with
  | none =>
    simp only [found] at resolved
    split at resolved <;> cases resolved
  | some c =>
    obtain ⟨b, values⟩ := c
    simp only [found, Resolution.matched.injEq] at resolved
    obtain ⟨rfl, rfl⟩ := resolved
    obtain ⟨_, member, read⟩ := List.mem_filterMap.mp (List.mem_of_find?_eq_some found)
    obtain ⟨values, captured, same⟩ := Option.map_eq_some_iff.mp read
    obtain ⟨rfl, rfl⟩ := Prod.mk.inj same
    exact ⟨member, by simpa using List.find?_some found, values, captured, rfl⟩

theorem resolution_matched {params : List (String × String)}
    (resolved : t.resolution method path = .matched b params) :
    b ∈ t.bindings ∧ Matches path b ∧ b.method = method := by
  obtain ⟨member, same, values, captured, _⟩ := exists_capture_of_resolution resolved
  exact ⟨member, Option.isSome_of_mem captured, same⟩

/-- A path without route matches no binding. -/
theorem resolution_notFound (resolved : t.resolution method path = .notFound) :
    ∀ b ∈ t.bindings, ¬ Matches path b := by
  rw [resolution] at resolved
  cases found : (t.candidates path).find? fun c => c.1.method == method with
  | some c => simp [found] at resolved
  | none =>
    by_cases empty : (t.candidates path).isEmpty
    · intro b member fits
      obtain ⟨values, candidate⟩ := exists_mem_candidates.mpr ⟨member, fits⟩
      rw [List.isEmpty_iff.mp empty] at candidate
      cases candidate
    · simp [found, empty] at resolved

/-- The methods that a path has instead are those of its bindings, each once. -/
theorem allowed_of_resolution {allowed : List String}
    (resolved : t.resolution method path = .methodNotAllowed allowed) :
    allowed = Members.distinct ((t.candidates path).map fun c => c.1.method) := by
  rw [resolution] at resolved
  split at resolved
  · cases resolved
  · split at resolved
    · cases resolved
    · exact (Resolution.methodNotAllowed.inj resolved).symm

/-- A path that has other methods only matches a binding, but none of the method. -/
theorem resolution_methodNotAllowed {allowed : List String}
    (resolved : t.resolution method path = .methodNotAllowed allowed) :
    (∃ b ∈ t.bindings, Matches path b) ∧
      ∀ b ∈ t.bindings, Matches path b → b.method ≠ method := by
  rw [resolution] at resolved
  cases found : (t.candidates path).find? fun c => c.1.method == method with
  | some c => simp [found] at resolved
  | none =>
    constructor
    · have nonempty : t.candidates path ≠ [] := by
        intro empty
        simp [empty] at resolved
      obtain ⟨c, candidate⟩ := List.exists_mem_of_ne_nil _ nonempty
      exact ⟨c.1, exists_mem_candidates.mp ⟨c.2, candidate⟩⟩
    · intro b member fits
      obtain ⟨values, candidate⟩ := exists_mem_candidates.mpr ⟨member, fits⟩
      simpa using List.find?_eq_none.mp found _ candidate

end RouteTable

/-! ### Other handlers -/

/-- A binding with another handler. -/
def Binding.withHandler (b : Binding) (handler : Handler) : Binding :=
  { b with handler }

/-- A table whose bindings have other handlers. -/
def RouteTable.withHandlers (t : RouteTable) (handler : Binding → Handler) : RouteTable :=
  { bindings := t.bindings.map fun b => b.withHandler (handler b) }

/-- A resolution to a binding with another handler. -/
def Resolution.withHandlers (handler : Binding → Handler) : Resolution → Resolution
  | .matched b params => .matched (b.withHandler (handler b)) params
  | .methodNotAllowed allowed => .methodNotAllowed allowed
  | .notFound => .notFound

theorem RouteTable.scan_withHandlers (E : RegexEngine) (handler : Binding → Handler)
    (method path : String) (allowed : List String) (bindings : List Binding) :
    scan E method path allowed (bindings.map fun b => b.withHandler (handler b)) =
      (scan E method path allowed bindings).withHandlers handler := by
  induction bindings generalizing allowed with
  | nil =>
    rw [List.map_nil, scan]
    split
    · rfl
    · rfl
  | cons b rest ih =>
    have same : capturesWith? E (b.withHandler (handler b)) path = capturesWith? E b path := rfl
    rw [List.map_cons, scan, scan, same]
    cases capturesWith? E b path with
    | none => exact ih allowed
    | some captured =>
      by_cases own : b.method = method
      · simp [own, Binding.withHandler, Resolution.withHandlers]
      · simpa [own, Binding.withHandler] using ih _

/-- Resolutions do not depend on the handlers. -/
theorem RouteTable.resolve_withHandlers (t : RouteTable) (handler : Binding → Handler)
    (method path : String) :
    (t.withHandlers handler).resolve method path =
      (t.resolve method path).withHandlers handler :=
  scan_withHandlers Regex.engine handler method path [] t.bindings

end ApiContract
