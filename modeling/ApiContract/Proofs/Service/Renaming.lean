import ApiContract.Proofs.Service.Shape

/-!
# Other names for the parameters of routes

Names in braces stand for the same texts of a path whatever they are, so that other names change
neither which bindings form a table nor which of them serve a path, nor what they capture there.
The order in which the bindings are tried is another matter: of two routes with equally many
braces the longer one is tried first, and the names count for its length. So the binding that
answers a path stays the same if other names leave the lengths of the routes in their order, and
may be another one if they do not.

## Main definitions

* `Template.Renamed` — a template with other names
* `RouteTable.KeepsOrder` — other names leave the lengths of routes in their order
* `Resolution.Renamed` — resolutions that agree but for the names

## Main results

* `Template.openings_of_renamed` — other names bring no further braces
* `RouteTable.tried_of_keepsOrder` — bindings are tried in the same order
* `RouteTable.resolve_renamed` — what does not depend on the names of a table
-/

namespace ApiContract

namespace Template

/-- A name without braces and slashes. -/
structure Plain (name : String) : Prop where
  openings : '\x7b' ∉ name.toList
  closings : '\x7d' ∉ name.toList
  slashes : '/' ∉ name.toList

/-- A text between slashes with another name: a name in braces becomes another one, and every
other text stays. -/
inductive Renames : String → String → Prop
  | same (text : String) : Renames text text
  | names (name other : String) (old : Plain name) (new : Plain other) :
      Renames (token name) (token other)

/-- A template with other names. -/
def Renamed (a b : String) : Prop :=
  List.Forall₂ Renames (Text.split a '/') (Text.split b '/')

variable {a b x y path : String} {xs ys values : List String}

theorem Renames.alike (renames : Renames x y) : Alike x y := by
  cases renames with
  | same _ => exact .same _
  | names name other _ _ => exact .names name other

theorem Renames.eq_empty_iff (renames : Renames x y) : x = "" ↔ y = "" := by
  cases renames with
  | same _ => exact Iff.rfl
  | names name other _ _ => simp [token]

/-- The texts of a template with other names are alike. -/
theorem alike_of_renamed (renamed : Renamed a b) : List.Forall₂ Alike (texts a) (texts b) := by
  have kept : List.Forall₂ Renames (texts a) (texts b) :=
    List.rel_filter (fun _ _ renames => by simpa using not_congr renames.eq_empty_iff) renamed
  exact kept.imp fun _ _ => Renames.alike

theorem shape_of_renamed (renamed : Renamed a b) : shape a = shape b :=
  shape_eq_iff.mpr ((alike_of_renamed renamed).imp fun _ _ => Alike.similar)

/-- Other names bring no further braces. -/
theorem Renames.openings (renames : Renames x y) : openings x = openings y := by
  cases renames with
  | same _ => rfl
  | names name other old new =>
    simp [Template.openings, token, List.count_eq_zero_of_not_mem old.openings,
      List.count_eq_zero_of_not_mem new.openings]

/-- Lists joined with a separator have a member equally often if their parts have. -/
theorem count_intercalate_congr {separator : List Char} {c : Char} {parts others : List (List Char)}
    (same : List.Forall₂ (fun xs ys => xs.count c = ys.count c) parts others) :
    (separator.intercalate parts).count c = (separator.intercalate others).count c := by
  induction same with
  | nil => rfl
  | cons first later ih =>
    cases later with
    | nil => simpa using first
    | cons second more =>
      rw [List.intercalate_cons_of_ne_nil (List.cons_ne_nil _ _),
        List.intercalate_cons_of_ne_nil (List.cons_ne_nil _ _)]
      simp only [List.count_append, first, ih]

theorem openings_of_renamed (renamed : Renamed a b) : openings a = openings b := by
  rw [openings, openings, ← Text.join_split a '/', ← Text.join_split b '/', Text.join, Text.join,
    String.toList_intercalate, String.toList_intercalate]
  apply count_intercalate_congr
  rw [List.forall₂_map_left_iff, List.forall₂_map_right_iff]
  exact List.Forall₂.imp (fun _ _ => Renames.openings) renamed

/-- When no name is repeated, each name has the value at its place. -/
theorem pathParams_of_nodup (distinct : (paramNames a).Nodup) (values : List String) :
    RouteTable.pathParams a values = (paramNames a).zip values := by
  refine Members.putAll_of_nodup (List.Sublist.nodup ?_ distinct)
  rw [Members.keys, List.zip_eq_zip_take_min, List.map_fst_zip (by simp)]
  exact List.take_sublist _ _

end Template

/-- A binding with other names in its route. Nothing is said about the rest of it but the
method. -/
structure Binding.Renamed (b other : Binding) : Prop where
  method : other.method = b.method
  route : Template.Renamed b.route other.route

/-- Resolutions by two lists of bindings that agree but for the names: to the bindings at one
place of the lists, where the parameters at one place of their routes have the same values; or to
the same methods; or to nothing. -/
inductive Resolution.Renamed (bindings renamed : List Binding) : Resolution → Resolution → Prop
  | matched (i : Nat) (b other : Binding) (values : List String) (old : bindings[i]? = some b)
      (new : renamed[i]? = some other) :
      Renamed bindings renamed (.matched b ((Template.paramNames b.route).zip values))
        (.matched other ((Template.paramNames other.route).zip values))
  | methodNotAllowed (allowed : List String) :
      Renamed bindings renamed (.methodNotAllowed allowed) (.methodNotAllowed allowed)
  | notFound : Renamed bindings renamed .notFound .notFound

namespace RouteTable

open Template

/-- Other names leave the lengths of the routes in their order: among the bindings that are
looked at, a route that is longer than another one with as many braces is so also with the other
names, and no other route becomes longer. -/
def KeepsOrder (bindings renamed : List Binding) (looked : Binding → Prop) : Prop :=
  ∀ (i j : Nat) (b c b' c' : Binding), bindings[i]? = some b → bindings[j]? = some c →
    renamed[i]? = some b' → renamed[j]? = some c' → looked b → looked c →
      openings b.route = openings c.route →
        (b.route.utf8ByteSize < c.route.utf8ByteSize ↔
          b'.route.utf8ByteSize < c'.route.utf8ByteSize)

variable {t t' : RouteTable} {b c b' c' : Binding} {bindings renamed stored : List Binding}
  {ranked ranked' : List (Binding × Nat)} {method path : String} {i j : Nat}
  {looked : Binding → Prop}

/-! ### Tables with other names -/

theorem key_of_renamed (names : b.Renamed b') : b'.key = b.key := by
  rw [Binding.key, Binding.key, names.method, shape_of_renamed names.route]

theorem keys_of_renamed (names : List.Forall₂ Binding.Renamed bindings renamed) :
    renamed.map Binding.key = bindings.map Binding.key := by
  induction names with
  | nil => rfl
  | cons first _ ih => rw [List.map_cons, List.map_cons, key_of_renamed first, ih]

/-- Bindings with other names form a table if the bindings do. -/
theorem exists_ofBindings_renamed (names : List.Forall₂ Binding.Renamed bindings renamed)
    (built : ofBindings bindings = .ok t) : ∃ t', ofBindings renamed = .ok t' := by
  rw [exists_ofBindings_iff, keys_of_renamed names]
  exact exists_ofBindings_iff.mp ⟨t, built⟩

/-- What stands at one place of both lists is one binding with its names and with the others. -/
theorem exists_renamed (names : List.Forall₂ Binding.Renamed bindings renamed)
    (old : bindings[i]? = some b) : ∃ b', renamed[i]? = some b' ∧ b.Renamed b' := by
  obtain ⟨length, alike⟩ := List.forall₂_iff_get.mp names
  obtain ⟨inside, rfl⟩ := List.getElem?_eq_some_iff.mp old
  exact ⟨_, List.getElem?_eq_getElem (length ▸ inside), alike i inside (length ▸ inside)⟩

theorem exists_original (names : List.Forall₂ Binding.Renamed bindings renamed)
    (new : renamed[i]? = some b') : ∃ b, bindings[i]? = some b ∧ b.Renamed b' := by
  obtain ⟨length, alike⟩ := List.forall₂_iff_get.mp names
  obtain ⟨inside, rfl⟩ := List.getElem?_eq_some_iff.mp new
  exact ⟨_, List.getElem?_eq_getElem (length ▸ inside), alike i (length ▸ inside) inside⟩

private theorem ranked_foldlM (ranks : Ranked stored t ranked)
    (built : bindings.foldlM insert t = .ok t') :
    ∃ next, Ranked (stored ++ bindings) t' next := by
  induction bindings generalizing t stored ranked with
  | nil =>
    obtain rfl := Except.ok.inj built
    exact ⟨ranked, by simpa using ranks⟩
  | cons b rest ih =>
    rw [List.foldlM_cons] at built
    obtain ⟨next, inserted, built⟩ := bind_eq_ok.mp built
    obtain ⟨_, onward⟩ := Ranked.insert ranks inserted
    simpa using ih onward built

/-- The bindings of a table are in order. -/
theorem ranked_ofBindings (built : ofBindings bindings = .ok t) :
    ∃ ranked, Ranked bindings t ranked :=
  ranked_foldlM Ranked.empty built

theorem capture?_renamed (names : b.Renamed b') (path : String) :
    capture? b.route path = capture? b'.route path :=
  capture?_of_alike (alike_of_renamed names.route) path

theorem serves_renamed (names : b.Renamed b') : b.Serves path ↔ b'.Serves path :=
  serves_iff_alike.mpr (alike_of_renamed names.route) path

/-! ### The order in which bindings are tried -/

/-- Other names that leave the lengths in their order leave the order of the bindings. -/
theorem ahead_iff (keeps : KeepsOrder bindings renamed looked) (lookedB : looked b)
    (lookedC : looked c) (oldB : bindings[i]? = some b) (oldC : bindings[j]? = some c)
    (newB : renamed[i]? = some b') (newC : renamed[j]? = some c') (namesB : b.Renamed b')
    (namesC : c.Renamed c') : Ahead (b, i) (c, j) ↔ Ahead (b', i) (c', j) := by
  have longer := keeps i j b c b' c' oldB oldC newB newC lookedB lookedC
  have shorter := keeps j i c b c' b' oldC oldB newC newB lookedC lookedB
  have bracesB := openings_of_renamed namesB.route
  have bracesC := openings_of_renamed namesC.route
  dsimp only [Ahead]
  omega

/-- The numbers of those bindings that are looked at, in the order in which they are tried. -/
def tried (ranked : List (Binding × Nat)) (looked : Binding → Bool) : List Nat :=
  (ranked.filter fun p => looked p.1).map Prod.snd

theorem mem_tried (ranks : Ranked stored t ranked) {looked : Binding → Bool} :
    i ∈ tried ranked looked ↔ ∃ b, stored[i]? = some b ∧ looked b := by
  simp only [tried, List.mem_map, List.mem_filter]
  constructor
  · rintro ⟨⟨b, i⟩, ⟨member, here⟩, rfl⟩
    exact ⟨b, (mem_ranked ranks).mp member, here⟩
  · rintro ⟨b, found, here⟩
    exact ⟨(b, i), ⟨(mem_ranked ranks).mpr found, here⟩, rfl⟩

/-- The order of bindings by their numbers in a list. -/
def Before (stored : List Binding) (i j : Nat) : Prop :=
  ∃ b c, stored[i]? = some b ∧ stored[j]? = some c ∧ Ahead (b, i) (c, j)

theorem Before.asymm (before : Before stored i j) : ¬ Before stored j i := by
  obtain ⟨b, c, atI, atJ, ahead⟩ := before
  rintro ⟨c', b', atJ', atI', behind⟩
  obtain rfl := Option.some.inj (atI.symm.trans atI')
  obtain rfl := Option.some.inj (atJ.symm.trans atJ')
  dsimp only [Ahead] at ahead behind
  omega

theorem pairwise_tried (ranks : Ranked stored t ranked) (looked : Binding → Bool) :
    (tried ranked looked).Pairwise (Before stored) := by
  refine List.pairwise_map.mpr (List.Pairwise.imp_of_mem ?_ (ranks.sorted.filter _))
  intro p q first second ahead
  have atP := (mem_ranked ranks).mp (List.mem_filter.mp first).1
  have atQ := (mem_ranked ranks).mp (List.mem_filter.mp second).1
  exact ⟨p.1, q.1, atP, atQ, ahead⟩

theorem nodup_tried (ranks : Ranked stored t ranked) (looked : Binding → Bool) :
    (tried ranked looked).Nodup := by
  refine (pairwise_tried ranks looked).imp fun before same => ?_
  subst same
  exact before.asymm before

/-- Bindings that are looked at are tried in the same order when the lengths of their routes are
left in their order. -/
theorem tried_of_keepsOrder {looked : Binding → Bool}
    (names : List.Forall₂ Binding.Renamed bindings renamed)
    (same : ∀ b b' : Binding, b.Renamed b' → looked b' = looked b)
    (keeps : KeepsOrder bindings renamed fun b => looked b) (ranks : Ranked bindings t ranked)
    (ranks' : Ranked renamed t' ranked') : tried ranked' looked = tried ranked looked := by
  have members : ∀ i, i ∈ tried ranked' looked ↔ i ∈ tried ranked looked := by
    intro i
    rw [mem_tried ranks', mem_tried ranks]
    constructor
    · rintro ⟨b', new, here⟩
      obtain ⟨b, old, alike⟩ := exists_original names new
      exact ⟨b, old, (same b b' alike).symm.trans here⟩
    · rintro ⟨b, old, here⟩
      obtain ⟨b', new, alike⟩ := exists_renamed names old
      exact ⟨b', new, (same b b' alike).trans here⟩
  -- The lists have the same members, and both are in order by the lengths before.
  have inOrder : (tried ranked' looked).Pairwise (Before bindings) := by
    refine (pairwise_tried ranks' looked).imp_of_mem ?_
    rintro i j first second ⟨b', c', newB, newC, ahead⟩
    obtain ⟨b, oldB, alikeB⟩ := exists_original names newB
    obtain ⟨c, oldC, alikeC⟩ := exists_original names newC
    obtain ⟨_, here, lookedB⟩ := (mem_tried ranks).mp ((members i).mp first)
    obtain rfl := Option.some.inj (oldB.symm.trans here)
    obtain ⟨_, there, lookedC⟩ := (mem_tried ranks).mp ((members j).mp second)
    obtain rfl := Option.some.inj (oldC.symm.trans there)
    exact ⟨b, c, oldB, oldC,
      (ahead_iff keeps lookedB lookedC oldB oldC newB newC alikeB alikeC).mpr ahead⟩
  refine List.Perm.eq_of_pairwise ?_ inOrder (pairwise_tried ranks looked) ?_
  · intro i j _ _ before after
    exact absurd after before.asymm
  · exact (List.perm_ext_iff_of_nodup (nodup_tried ranks' looked) (nodup_tried ranks looked)).mpr
      members

/-! ### What is resolved -/

/-- The methods of the bindings that serve a path, in the order in which they are tried. -/
theorem methods_candidates (ranks : Ranked stored t ranked) (path : String) :
    (t.candidates path).map (fun c => some c.1.method) =
      (tried ranked fun b => (capture? b.route path).isSome).map fun i =>
        stored[i]?.map Binding.method := by
  have found : ∀ p ∈ ranked, stored[p.2]? = some p.1 := fun p member =>
    (mem_ranked ranks).mp member
  rw [candidates, ← ranks.bindings, tried]
  clear ranks
  induction ranked with
  | nil => rfl
  | cons p rest ih =>
    rw [List.forall_mem_cons] at found
    have later := ih found.2
    rw [List.map_cons, List.filterMap_cons, List.filter_cons]
    cases capture? p.1.route path with
    | none => simpa using later
    | some values => simpa [found.1] using later

/-- Bindings of equal properties are in both lists or in none. -/
theorem exists_mem_renamed (names : List.Forall₂ Binding.Renamed bindings renamed)
    (same : ∀ b b' : Binding, b.Renamed b' → (looked b' ↔ looked b)) :
    (∃ b ∈ renamed, looked b) ↔ ∃ b ∈ bindings, looked b := by
  induction names with
  | nil => simp
  | cons first _ ih => simp only [List.mem_cons, exists_eq_or_imp, same _ _ first, ih]

theorem KeepsOrder.mono {fewer : Binding → Prop} (keeps : KeepsOrder bindings renamed looked)
    (within : ∀ b, fewer b → looked b) : KeepsOrder bindings renamed fewer := by
  intro i j b c b' c' oldB oldC newB newC lookedB lookedC
  exact keeps i j b c b' c' oldB oldC newB newC (within b lookedB) (within c lookedC)

/-! ### Which kind of answer there is -/

section Kinds

variable {r r' : Resolution} {allowed : List String}

theorem exists_matched_renamed (names : List.Forall₂ Binding.Renamed bindings renamed)
    (resolves : Resolves bindings method path r) (resolves' : Resolves renamed method path r') :
    (∃ b params, r' = .matched b params) ↔ ∃ b params, r = .matched b params := by
  rw [resolves'.exists_matched_iff, resolves.exists_matched_iff]
  exact exists_mem_renamed names fun b b' alike => by rw [alike.method, serves_renamed alike]

theorem notFound_renamed (names : List.Forall₂ Binding.Renamed bindings renamed)
    (resolves : Resolves bindings method path r) (resolves' : Resolves renamed method path r') :
    r' = .notFound ↔ r = .notFound := by
  rw [resolves'.eq_notFound_iff, resolves.eq_notFound_iff]
  have served : (∃ b ∈ renamed, b.Serves path) ↔ ∃ b ∈ bindings, b.Serves path :=
    exists_mem_renamed names fun b b' alike => (serves_renamed alike).symm
  simpa using not_congr served

/-- A path that is refused is refused with the other names as well, with the same methods. -/
theorem exists_methodNotAllowed_renamed (names : List.Forall₂ Binding.Renamed bindings renamed)
    (resolves : Resolves bindings method path (.methodNotAllowed allowed))
    (resolves' : Resolves renamed method path r') :
    ∃ allowed', r' = .methodNotAllowed allowed' ∧ allowed'.Perm allowed := by
  have matched := exists_matched_renamed names resolves resolves'
  have notFound := notFound_renamed names resolves resolves'
  cases resolves' with
  | matched b _ _ params =>
    obtain ⟨_, _, other⟩ := matched.mp ⟨b, params, rfl⟩
    cases other
  | notFound => cases notFound.mp rfl
  | methodNotAllowed allowed' _ _ distinct' methods' =>
    cases resolves with
    | methodNotAllowed _ _ _ distinct methods =>
      refine ⟨allowed', rfl, (List.perm_ext_iff_of_nodup distinct' distinct).mpr fun m => ?_⟩
      rw [methods', methods]
      exact exists_mem_renamed names fun b b' alike => by rw [alike.method, serves_renamed alike]

end Kinds

/-! ### Which answer there is -/

/-- When the routes of one method that serve a path keep the order of their lengths, the bindings
that are found for it stand at one place of both lists. -/
theorem place_of_keepsOrder {params params' : List (String × String)}
    (names : List.Forall₂ Binding.Renamed bindings renamed)
    (keeps : KeepsOrder bindings renamed fun b => b.method = method ∧ b.Serves path)
    (resolves : Resolves bindings method path (.matched b params))
    (resolves' : Resolves renamed method path (.matched c' params')) :
    ∃ i : Nat, bindings[i]? = some b ∧ renamed[i]? = some c' ∧ b.Renamed c' := by
  cases resolves with
  | matched _ i _ _ atI method spells first =>
    cases resolves' with
    | matched _ j _ _ atJ' method' spells' first' =>
      obtain ⟨c, atJ, alikeC⟩ := exists_original names atJ'
      obtain ⟨b', atI', alikeB⟩ := exists_renamed names atI
      have servesB : b.Serves path := ⟨_, spells⟩
      have servesC : c.Serves path := (serves_renamed alikeC).mpr ⟨_, spells'⟩
      have methodC : c.method = _ := alikeC.method.symm.trans method'
      -- Each of the two is the first of its list, in one and the same order.
      rcases first c j atJ methodC servesC with rfl | ahead
      · obtain rfl := Option.some.inj (atI.symm.trans atJ)
        exact ⟨j, atI, atJ', alikeC⟩
      · rcases first' b' i atI' (alikeB.method.trans method)
          ((serves_renamed alikeB).mp servesB) with rfl | behind
        · obtain rfl := Option.some.inj (atI.symm.trans atJ)
          exact ⟨i, atI, atJ', alikeC⟩
        · rw [ahead_iff keeps ⟨method, servesB⟩ ⟨methodC, servesC⟩ atI atJ atI' atJ' alikeB
            alikeC] at ahead
          dsimp only [Ahead] at ahead behind
          omega

/-- So the bindings agree but for the names, and their parameters have the same values. -/
theorem renamed_of_matched {params params' : List (String × String)}
    (names : List.Forall₂ Binding.Renamed bindings renamed)
    (distinct : ∀ b ∈ bindings ++ renamed, (paramNames b.route).Nodup)
    (keeps : KeepsOrder bindings renamed fun b => b.method = method ∧ b.Serves path)
    (ranks : Ranked bindings t ranked) (ranks' : Ranked renamed t' ranked')
    (found : t.resolve method path = .matched b params)
    (found' : t'.resolve method path = .matched b' params') :
    Resolution.Renamed bindings renamed (.matched b params) (.matched b' params') := by
  rw [resolve_eq] at found found'
  obtain ⟨i, old, new, alike⟩ :=
    place_of_keepsOrder names keeps (ranks.resolves_matched found) (ranks'.resolves_matched found')
  obtain ⟨_, _, values, captured, rfl⟩ := exists_capture_of_resolution found
  obtain ⟨_, _, values', captured', rfl⟩ := exists_capture_of_resolution found'
  rw [← capture?_renamed alike, captured] at captured'
  obtain rfl := Option.some.inj captured'
  rw [pathParams_of_nodup (distinct b (List.mem_append_left _ (List.mem_of_getElem? old))),
    pathParams_of_nodup (distinct b' (List.mem_append_right _ (List.mem_of_getElem? new)))]
  exact .matched i b b' values old new

/-- A path is refused with the same methods when the routes that serve it keep the order of their
lengths. -/
theorem allowed_of_keepsOrder {allowed allowed' : List String}
    (names : List.Forall₂ Binding.Renamed bindings renamed)
    (keeps : KeepsOrder bindings renamed fun b => b.Serves path)
    (ranks : Ranked bindings t ranked) (ranks' : Ranked renamed t' ranked')
    (refused : t.resolve method path = .methodNotAllowed allowed)
    (refused' : t'.resolve method path = .methodNotAllowed allowed') : allowed' = allowed := by
  have order := tried_of_keepsOrder names
    (fun b b' alike => congrArg Option.isSome (capture?_renamed alike path).symm)
    (keeps.mono fun b => matches_iff.mp) ranks ranks'
  have methods : ∀ i : Nat, renamed[i]?.map Binding.method = bindings[i]?.map Binding.method := by
    intro i
    cases old : bindings[i]? with
    | some b =>
      obtain ⟨b', new, alike⟩ := exists_renamed names old
      rw [new, Option.map_some, Option.map_some, alike.method]
    | none =>
      cases new : renamed[i]? with
      | none => rfl
      | some b' =>
        obtain ⟨b, there, _⟩ := exists_original names new
        rw [old] at there
        cases there
  have candidates := methods_candidates ranks' path
  rw [order, funext methods, ← methods_candidates ranks path] at candidates
  rw [resolve_eq] at refused refused'
  rw [allowed_of_resolution refused, allowed_of_resolution refused']
  congr 1
  apply List.map_injective_iff.mpr (Option.some_injective String)
  simpa only [List.map_map, Function.comp_def] using candidates

/-- Bindings with other names form a table if the bindings do, and whatever the names are, both
tables find something for the same methods and paths and refuse the same ones with the same
methods. The binding that is found is the one at the same place, with the same values at the same
places of its route, if the names leave the lengths of those routes in their order that have the
method and serve the path; the methods of a refusal are in the same order if they leave the
lengths of all routes that serve the path in their order. -/
theorem resolve_renamed (names : List.Forall₂ Binding.Renamed bindings renamed)
    (distinct : ∀ b ∈ bindings ++ renamed, (paramNames b.route).Nodup)
    (built : ofBindings bindings = .ok t) :
    ∃ t', ofBindings renamed = .ok t' ∧ ∀ method path,
      ((∃ b params, t'.resolve method path = .matched b params) ↔
        ∃ b params, t.resolve method path = .matched b params) ∧
      (t'.resolve method path = .notFound ↔ t.resolve method path = .notFound) ∧
      (∀ allowed, t.resolve method path = .methodNotAllowed allowed →
        ∃ allowed', t'.resolve method path = .methodNotAllowed allowed' ∧
          allowed'.Perm allowed) ∧
      (KeepsOrder bindings renamed (fun b => b.method = method ∧ b.Serves path) →
        ∀ b params, t.resolve method path = .matched b params →
          Resolution.Renamed bindings renamed (t.resolve method path)
            (t'.resolve method path)) ∧
      (KeepsOrder bindings renamed (fun b => b.Serves path) →
        Resolution.Renamed bindings renamed (t.resolve method path)
          (t'.resolve method path)) := by
  obtain ⟨t', built'⟩ := exists_ofBindings_renamed names built
  obtain ⟨ranked, ranks⟩ := ranked_ofBindings built
  obtain ⟨ranked', ranks'⟩ := ranked_ofBindings built'
  refine ⟨t', built', fun method path => ?_⟩
  have resolves := ranks.resolves method path
  have resolves' := ranks'.resolves method path
  rw [← resolve_eq] at resolves resolves'
  have matched := exists_matched_renamed names resolves resolves'
  have notFound := notFound_renamed names resolves resolves'
  have refused (allowed : List String)
      (here : t.resolve method path = .methodNotAllowed allowed) :=
    exists_methodNotAllowed_renamed names (here ▸ resolves) resolves'
  have found (keeps : KeepsOrder bindings renamed fun b => b.method = method ∧ b.Serves path)
      (b : Binding) (params : List (String × String))
      (here : t.resolve method path = .matched b params) :
      Resolution.Renamed bindings renamed (t.resolve method path) (t'.resolve method path) := by
    obtain ⟨b', params', there⟩ := matched.mpr ⟨b, params, here⟩
    rw [here, there]
    exact renamed_of_matched names distinct keeps ranks ranks' here there
  refine ⟨matched, notFound, refused, found, fun keeps => ?_⟩
  cases here : t.resolve method path with
  | matched b params =>
    have same := found (keeps.mono fun b => And.right) b params here
    rwa [here] at same
  | methodNotAllowed allowed =>
    obtain ⟨allowed', there, _⟩ := refused allowed here
    rw [there, allowed_of_keepsOrder names keeps ranks ranks' here there]
    exact .methodNotAllowed allowed
  | notFound =>
    rw [notFound.mpr here]
    exact .notFound

/-! ### Pages under two names -/

/-- Two pages under a name each, of which both serve the path of a new item. -/
def itemPages (item shelf : String) : List Binding :=
  [page ("/items/" ++ token item), page ("/" ++ token shelf ++ "/new")]

/-- The second page has the longer route; with other names it still has, and still answers. -/
theorem resolve_renamed_longer :
    List.Forall₂ Binding.Renamed (itemPages "id" "shelf") (itemPages "number" "bookshelf") ∧
      ∃ t t', ofBindings (itemPages "id" "shelf") = .ok t ∧
        ofBindings (itemPages "number" "bookshelf") = .ok t' ∧
        t.resolve "GET" "/items/new" = .matched (page "/\x7bshelf\x7d/new") [("shelf", "items")] ∧
        Resolution.Renamed (itemPages "id" "shelf") (itemPages "number" "bookshelf")
          (t.resolve "GET" "/items/new") (t'.resolve "GET" "/items/new") := by
  have names : List.Forall₂ Binding.Renamed (itemPages "id" "shelf")
      (itemPages "number" "bookshelf") := by
    refine .cons ⟨rfl, ?_⟩ (.cons ⟨rfl, ?_⟩ .nil)
    · exact .cons (.same _) (.cons (.same _) (.cons
        (.names "id" "number" (by constructor <;> decide) (by constructor <;> decide)) .nil))
    · exact .cons (.same _) (.cons
        (.names "shelf" "bookshelf" (by constructor <;> decide) (by constructor <;> decide))
        (.cons (.same _) .nil))
  have distinct : ∀ b ∈ itemPages "id" "shelf" ++ itemPages "number" "bookshelf",
      (paramNames b.route).Nodup := by
    simp only [itemPages, List.cons_append, List.nil_append, List.forall_mem_cons]
    decide
  have built : ofBindings (itemPages "id" "shelf") = .ok _ := ofBindings_of_nodup (by decide)
  obtain ⟨t', built', answers⟩ := resolve_renamed names distinct built
  have keeps : KeepsOrder (itemPages "id" "shelf") (itemPages "number" "bookshelf")
      fun b => b.Serves "/items/new" := by
    rintro (_ | _ | i) (_ | _ | j) b c b' c' oldB oldC newB newC - - - <;>
      cases oldB <;> cases oldC <;> cases newB <;> cases newC <;> decide
  refine ⟨names, _, t', built, built', ?_, (answers "GET" "/items/new").2.2.2.2 keeps⟩
  rw [resolve_eq]
  rfl

/-- With a longer name, the route of the first page becomes the longer one, and the page answers
in place of the second one. -/
theorem resolve_other_page :
    List.Forall₂ Binding.Renamed (itemPages "id" "shelf") (itemPages "identifier" "shelf") ∧
      ∃ t t', ofBindings (itemPages "id" "shelf") = .ok t ∧
        ofBindings (itemPages "identifier" "shelf") = .ok t' ∧
        t.resolve "GET" "/items/new" = .matched (page "/\x7bshelf\x7d/new") [("shelf", "items")] ∧
        t'.resolve "GET" "/items/new" =
          .matched (page "/items/\x7bidentifier\x7d") [("identifier", "new")] ∧
        ¬ ∃ (i : Nat) (b b' : Binding), (itemPages "id" "shelf")[i]? = some b ∧
          (itemPages "identifier" "shelf")[i]? = some b' ∧
          (∃ params, t.resolve "GET" "/items/new" = .matched b params) ∧
          ∃ params, t'.resolve "GET" "/items/new" = .matched b' params := by
  refine ⟨?_, _, _, ofBindings_of_nodup (by decide), ofBindings_of_nodup (by decide), ?_⟩
  · refine .cons ⟨rfl, ?_⟩ (.cons ⟨rfl, ?_⟩ .nil)
    · exact .cons (.same _) (.cons (.same _) (.cons
        (.names "id" "identifier" (by constructor <;> decide) (by constructor <;> decide)) .nil))
    · exact .cons (.same _) (.cons (.same _) (.cons (.same _) .nil))
  · simp only [resolve_eq]
    refine ⟨rfl, rfl, ?_⟩
    rintro ⟨i, b, b', old, new, ⟨params, found⟩, params', found'⟩
    have second : page "/\x7bshelf\x7d/new" = b := (Resolution.matched.inj found).1
    have first : page "/items/\x7bidentifier\x7d" = b' := (Resolution.matched.inj found').1
    subst second first
    rcases i with _ | _ | i
    · exact absurd (congrArg Binding.route (Option.some.inj old)) (by decide)
    · exact absurd (congrArg Binding.route (Option.some.inj new)) (by decide)
    · cases old

end RouteTable

end ApiContract
