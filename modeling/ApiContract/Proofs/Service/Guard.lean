import ApiContract.Proofs.Service.Invocation
import ApiContract.Proofs.Service.RequestId
import ApiContract.Proofs.Text.Blank
import ApiContract.Proofs.Text.Split

/-!
# Who is let through to a handler

A service that asks for tokens calls a handler only for a request whose header bears a token
that the verifier knows, as the user of that token, or for a request on a path that needs no
token. Such a path begins with the text of an exempted one. Where that text ends at a slash the
path lies under it; elsewhere it may as well go on within the last segment, and belong to
another route.

## Main definitions

* `BearerAuth.Bears` — a header's value that bears a token
* `Path.Under` — a path at or below another
* `Dispatcher.called?` — the handler that a request is handed to, and what it is given

## Main results

* `BearerAuth.user_eq_ok_iff` — whose token a request bears
* `Dispatcher.dispatch_of_called` — what an answer has to do with handlers
* `App.called_guarded` — for whom a service with authentication calls handlers
-/

namespace ApiContract

/-! ### Tokens in headers -/

namespace BearerAuth

open Text (Blanks Trimmed isBlank)

/-- The value of a header bears a token: the word `bearer`, in letters of either case, a
space, and the token, with any blanks around and between them. -/
def Bears (value token : String) : Prop :=
  ∃ lead scheme gap trail : List Char,
    value.toList = lead ++ (scheme ++ ' ' :: (gap ++ token.toList)) ++ trail ∧
      Text.eqIgnoreCase (String.ofList scheme) "bearer" ∧ token ≠ "" ∧ Trimmed token.toList ∧
      Blanks lead ∧ Blanks gap ∧ Blanks trail

variable {a : BearerAuth} {ctx : RequestContext} {value token user : String}

/-- Letters that spell the scheme are not blank. -/
theorem not_isBlank_of_scheme {scheme : List Char}
    (spelled : Text.eqIgnoreCase (String.ofList scheme) "bearer") :
    scheme ≠ [] ∧ ∀ c ∈ scheme, isBlank c = false := by
  have letters : scheme.map Char.toLower = "bearer".toList := by
    have same := congrArg String.toList (eq_of_beq spelled)
    simpa [Text.lowerAscii] using same
  refine ⟨fun none => by simp [none] at letters, fun c member => ?_⟩
  -- A blank is no capital and stays as it is, but the scheme has no blank in it.
  by_contra blank
  have blank : isBlank c = true := by simpa using blank
  have same : c.toLower = c := by
    refine dif_neg ?_
    simp only [isBlank, Bool.or_eq_true, Bool.and_eq_true, decide_eq_true_eq, beq_iff_eq] at blank
    rintro ⟨least, most⟩
    have least : 65 ≤ c.toNat := least
    have most : c.toNat ≤ 90 := most
    omega
  have inside : c ∈ "bearer".toList := by
    rw [← letters]
    exact List.mem_map.mpr ⟨c, member, same⟩
  have plain : ∀ c ∈ "bearer".toList, isBlank c = false := by simp [isBlank]
  rw [plain c inside] at blank
  cases blank

theorem trimmed_of_bears {scheme gap : List Char}
    (spelled : Text.eqIgnoreCase (String.ofList scheme) "bearer") (some : token ≠ "")
    (trimmed : Trimmed token.toList) : Trimmed (scheme ++ ' ' :: (gap ++ token.toList)) where
  first c member := by
    obtain ⟨letters, plain⟩ := not_isBlank_of_scheme spelled
    cases scheme with
    | nil => exact absurd rfl letters
    | cons d more => exact plain c (Option.some.inj member ▸ List.mem_cons_self)
  last c member := by
    have long : token.toList ≠ [] := by simpa using some
    apply trimmed.last c
    rw [List.getLast?_append_of_ne_nil _ (List.cons_ne_nil _ _), ← List.singleton_append,
      List.getLast?_append_of_ne_nil _ (by simp [long]),
      List.getLast?_append_of_ne_nil _ long] at member
    exact member

/-- The token of a trimmed header. -/
theorem token_eq_ok_iff : BearerAuth.token value = .ok token ↔ ∃ scheme rest : String,
    value.toList = scheme.toList ++ ' ' :: rest.toList ∧ ' ' ∉ scheme.toList ∧
      Text.eqIgnoreCase scheme "bearer" ∧ Text.trim rest = token := by
  rw [BearerAuth.token]
  constructor
  · intro read
    split at read
    · rename_i scheme rest cut
      split at read
      · rename_i spelled
        obtain ⟨parts, plain⟩ := Text.splitOnce_eq_some_iff.mp cut
        exact ⟨scheme, rest, parts, plain, spelled, Except.ok.inj read⟩
      · cases read
    · cases read
  · rintro ⟨scheme, rest, parts, plain, spelled, rfl⟩
    rw [Text.splitOnce_eq_some_iff.mpr ⟨parts, plain⟩]
    exact if_pos spelled

theorem credentials_eq_ok_iff : credentials ctx = .ok value ↔
    ∃ raw, ctx.header? "authorization" = some raw ∧ Text.trim raw = value ∧ value ≠ "" := by
  rw [credentials]
  cases ctx.header? "authorization" with
  | none => simp [Option.filter]
  | some raw =>
    by_cases blank : Text.trim raw = ""
    · simp [blank, Option.filter]
    · simp only [Option.map_some, Option.filter, blank, ne_eq, not_false_eq_true, decide_true,
        if_true, Except.ok.injEq, Option.some.injEq, exists_eq_left']
      exact ⟨fun same => ⟨same, same ▸ blank⟩, And.left⟩

/-- The token that is read of a header is the one that it bears. -/
theorem bears_iff : Bears value token ↔ Text.trim value ≠ "" ∧
    BearerAuth.token (Text.trim value) = .ok token := by
  rw [token_eq_ok_iff]
  constructor
  · rintro ⟨lead, scheme, gap, trail, parts, spelled, some, trimmed, before, between, after⟩
    have left : (Text.trim value).toList = scheme ++ ' ' :: (gap ++ token.toList) := by
      rw [Text.trim, String.toList_ofList, parts]
      exact Text.trimChars_append before (trimmed_of_bears spelled some trimmed) after
    obtain ⟨_, plain⟩ := not_isBlank_of_scheme spelled
    refine ⟨fun none => by simp [none] at left, String.ofList scheme,
      String.ofList (gap ++ token.toList), by simp [left], ?_, spelled, ?_⟩
    · intro blank
      have space := plain ' ' (by simpa using blank)
      exact absurd space (by decide)
    · have core := Text.trimChars_append between trimmed Blanks.nil
      rw [List.append_nil] at core
      rw [Text.trim, String.toList_ofList, core, String.ofList_toList]
  · rintro ⟨-, scheme, rest, parts, -, spelled, rfl⟩
    obtain ⟨lead, trail, before, after, outer, ends⟩ := Text.exists_trimChars value.toList
    obtain ⟨gap, behind, between, last, inner, trimmed⟩ := Text.exists_trimChars rest.toList
    rw [Text.trim, String.toList_ofList] at parts
    have whole : value.toList = lead ++ (scheme.toList ++ ' ' ::
        (gap ++ (Text.trim rest).toList)) ++ (behind ++ trail) := by
      rw [outer, parts, Text.trim, String.toList_ofList]
      conv_lhs => rw [inner]
      simp
    refine ⟨lead, scheme.toList, gap, behind ++ trail, whole, by simpa using spelled, ?_,
      by simpa [Text.trim] using trimmed, before, between, last.append after⟩
    -- Without token the trimmed value would end with a blank, the space at the latest.
    intro none
    have left : Text.trimChars rest.toList = [] := by
      simpa [Text.trim] using congrArg String.toList none
    rw [left, List.append_nil] at inner
    have space : Blanks [' '] := by
      intro c member
      rw [List.mem_singleton.mp member]
      decide
    have blanks : Blanks (' ' :: rest.toList) := by
      rw [inner]
      exact space.append (between.append last)
    have final := List.getLast?_eq_some_getLast (List.cons_ne_nil ' ' rest.toList)
    have plain := ends.last _ (by
      rw [parts, List.getLast?_append_of_ne_nil _ (List.cons_ne_nil _ _)]
      exact final)
    rw [blanks _ (List.getLast_mem _)] at plain
    cases plain

/-- A request proves to be of a user when its header bears a token that the verifier knows. -/
theorem user_eq_ok_iff : a.user ctx = .ok user ↔ ∃ value token,
    ctx.header? "authorization" = some value ∧ Bears value token ∧ a.verifier token = .ok user := by
  have verified : a.user ctx = credentials ctx >>= fun value =>
      BearerAuth.token value >>= fun token => (a.verifier token).mapError TokenError.toFailure := by
    refine congrArg (credentials ctx >>= ·) (funext fun value =>
      congrArg (BearerAuth.token value >>= ·) (funext fun token => ?_))
    cases a.verifier token <;> rfl
  rw [verified]
  constructor
  · intro proved
    obtain ⟨value, found, read⟩ := bind_eq_ok.mp proved
    obtain ⟨raw, header, rfl, some⟩ := credentials_eq_ok_iff.mp found
    obtain ⟨token, read, known⟩ := bind_eq_ok.mp read
    exact ⟨raw, token, header, bears_iff.mpr ⟨some, read⟩, mapError_eq_ok.mp known⟩
  · rintro ⟨value, token, header, bears, known⟩
    obtain ⟨some, read⟩ := bears_iff.mp bears
    exact bind_eq_ok.mpr ⟨_, credentials_eq_ok_iff.mpr ⟨value, header, rfl, some⟩,
      bind_eq_ok.mpr ⟨token, read, mapError_eq_ok.mpr known⟩⟩

/-- A request passes authentication on a path that needs no token, and else as the user of its
token. -/
theorem before_eq_ok_iff {entered : RequestContext} : a.stage.before ctx = .ok entered ↔
    (a.isExempt ctx.path ∧ entered = ctx) ∨
      (¬ a.isExempt ctx.path ∧ ∃ user, a.user ctx = .ok user ∧
        entered = { ctx with caller := ctx.caller.withUser user }) := by
  rw [stage]
  by_cases exempt : a.isExempt ctx.path
  · simp [exempt, eq_comm]
  · simp only [exempt, bind_eq_ok, pure, Except.pure, Except.ok.injEq, Bool.false_eq_true,
      if_false, false_and, not_false_eq_true, true_and, false_or]
    simp only [eq_comm]

end BearerAuth

/-! ### Exempted paths -/

namespace Path

/-- A path is at another one, or goes on below it at a slash. A final slash of the other one
makes no difference. -/
def Under (path start : String) : Prop :=
  let stem := (Text.stripEnd? "/" start).getD start
  path = stem ∨ ∃ rest, path = stem ++ "/" ++ rest

/-- What begins with a text that ends at a slash lies under it. -/
theorem under_of_append {start stem rest : String} (slash : start = stem ++ "/") :
    Under (start ++ rest) start := by
  rw [Under, Text.stripEnd?_eq_some_iff.mpr slash]
  exact .inr ⟨rest, by rw [slash]; rfl⟩

end Path

theorem BearerAuth.isExempt_iff {a : BearerAuth} {path : String} :
    a.isExempt path ↔ ∃ start ∈ a.exempt, ∃ rest, path = start ++ rest := by
  simp only [isExempt, List.any_eq_true, Text.startsWith, Option.isSome_iff_exists,
    Text.stripStart?_eq_some_iff]

/-! ### Calls of handlers -/

namespace Binding

variable {b : Binding} {models : ModelSet}

theorem acceptsWithin_withHandler (handler : Handler) (steps : Nat) (name : String) :
    (b.withHandler handler).acceptsWithin models steps name =
      b.acceptsWithin models steps name := by
  induction steps generalizing name with
  | zero => rfl
  | succ steps ih =>
    rw [acceptsWithin, acceptsWithin]
    simp only [ih]
    rfl

/-- Results are checked whatever the handler is that has produced them. -/
theorem check_withHandler (handler : Handler) (result : Outcome) :
    (b.withHandler handler).check models result = b.check models result := by
  cases result with
  | «instance» i =>
    rw [check, check, accepts, accepts, acceptsWithin_withHandler]
    rfl
  | _ => rfl

end Binding

namespace Dispatcher

variable {d : Dispatcher} {ctx : RequestContext} {b : Binding} {i : Invocation}

/-- What the handler of a binding is given for a request, if it can be read. -/
def given? (d : Dispatcher) (ctx : RequestContext) (b : Binding) : Option Invocation :=
  (d.registry.get? b.api).bind fun models =>
    (d.invocation models (ctx.moveTo .parsing) b).toOption

/-- The binding whose handler is run for a request, and what the handler is given. -/
def called? (d : Dispatcher) (ctx : RequestContext) : Option (Binding × Invocation) :=
  match d.chain.runPre ctx with
  | .error _ => none
  | .ok entered =>
    match d.routes.resolve entered.method entered.path with
    | .matched b params =>
      (d.given? { entered with pathParams := params, endpoint := some b.endpoint } b).map (b, ·)
    | .methodNotAllowed _ | .notFound => none

/-- A handler matters to the execution only by what it makes of what it is given. -/
theorem execute_withHandler {handler : Handler}
    (alike : ∀ i, d.given? ctx b = some i → handler i = b.handler i) :
    d.execute ctx (b.withHandler handler) = d.execute ctx b := by
  have api : (b.withHandler handler).api = b.api := rfl
  have same : ∀ models, d.invocation models (ctx.moveTo .parsing) (b.withHandler handler) =
      d.invocation models (ctx.moveTo .parsing) b := fun _ => rfl
  rw [execute, execute, api]
  -- Without models, or when the request does not read as an invocation, nothing is given.
  cases known : d.registry.get? b.api with
  | none => rfl
  | some models =>
    cases read : d.invocation models (ctx.moveTo .parsing) b with
    | ok i =>
      have given : d.given? ctx b = some i := by
        rw [given?, known, Option.bind_some, read]
        rfl
      have run : (b.withHandler handler).handler i = b.handler i := alike i given
      simp only [same, read, run, Binding.check_withHandler, bind, Except.bind]
      rfl
    | error f => simp [same, read, bind, Except.bind]

theorem call_withHandler {handler : Handler}
    (alike : ∀ i, d.given? ctx b = some i → handler i = b.handler i) (fresh : Uuid) :
    d.call ctx (b.withHandler handler) fresh = d.call ctx b fresh := by
  rw [call, call, execute_withHandler alike]
  cases d.execute ctx b with
  | error f => rfl
  | ok result => rfl

/-- The handlers matter to the answer only by what the one that is called makes of what it is
given: other handlers that make the same of it give the same answer. -/
theorem dispatch_of_called {handler : Binding → Handler}
    (alike : ∀ b i, d.called? ctx = some (b, i) → handler b i = b.handler i) (fresh : Uuid) :
    (d.withHandlers handler).dispatch ctx fresh = d.dispatch ctx fresh := by
  have chain : (d.withHandlers handler).chain = d.chain := rfl
  have same : (d.withHandlers handler).answer ctx fresh = d.answer ctx fresh := by
    rw [called?] at alike
    rw [answer, answer, chain]
    cases passed : d.chain.runPre ctx with
    | error f => rfl
    | ok entered =>
      simp only [passed] at alike
      have resolves := d.routes.resolve_withHandlers handler entered.method entered.path
      show (d.withHandlers handler).route entered fresh = d.route entered fresh
      rw [route, route, withHandlers, resolves]
      cases resolved : d.routes.resolve entered.method entered.path with
      | matched b params =>
        simp only [resolved] at alike
        refine call_withHandler (fun i given => alike b i ?_) fresh
        exact Option.map_eq_some_iff.mpr ⟨i, given, rfl⟩
      | methodNotAllowed allowed => rfl
      | notFound => rfl
  rw [dispatch, dispatch, same]
  rfl

theorem context_foldl_declare (names : List String) (i : Invocation) :
    (names.foldl Invocation.declare i).context = i.context := by
  induction names generalizing i with
  | nil => rfl
  | cons name rest ih =>
    rw [List.foldl_cons, ih, Invocation.declare]
    split <;> rfl

theorem context_foldl_withParam (values : List (String × Value)) (i : Invocation) :
    (values.foldl (fun i v => i.withParam v.1 v.2) i).context = i.context := by
  induction values generalizing i with
  | nil => rfl
  | cons v rest ih =>
    rw [List.foldl_cons, ih]
    exact context_foldl_declare [v.1] i

theorem context_invocation {models : ModelSet} (read : d.invocation models ctx b = .ok i) :
    i.context = ctx := by
  obtain ⟨payload, _, read⟩ := bind_eq_ok.mp read
  obtain ⟨body, _, read⟩ := bind_eq_ok.mp read
  obtain ⟨values, _, read⟩ := bind_eq_ok.mp read
  obtain rfl := Except.ok.inj read
  rw [context_foldl_withParam, context_foldl_declare]

/-- A handler is called for a request that the stages let through, that is routed to its binding
and that reads as an invocation. -/
theorem called?_eq_some (called : d.called? ctx = some (b, i)) : ∃ entered params models,
    d.chain.runPre ctx = .ok entered ∧
      d.routes.resolve entered.method entered.path = .matched b params ∧
      d.registry.get? b.api = some models ∧
      d.invocation models (({ entered with
        pathParams := params, endpoint := some b.endpoint } : RequestContext).moveTo .parsing) b =
        .ok i := by
  rw [called?] at called
  cases passed : d.chain.runPre ctx with
  | error f =>
    rw [passed] at called
    cases called
  | ok entered =>
    simp only [passed] at called
    cases resolved : d.routes.resolve entered.method entered.path with
    | matched x params =>
      simp only [resolved] at called
      obtain ⟨i, given, same⟩ := Option.map_eq_some_iff.mp called
      obtain ⟨rfl, rfl⟩ := Prod.mk.inj same
      obtain ⟨models, known, read⟩ := Option.bind_eq_some_iff.mp given
      exact ⟨entered, params, models, rfl, resolved, known, toOption_eq_some.mp read⟩
    | methodNotAllowed allowed =>
      rw [resolved] at called
      cases called
    | notFound =>
      rw [resolved] at called
      cases called

/-- What a handler is given holds the request as it was let through and routed. -/
theorem context_of_called (called : d.called? ctx = some (b, i)) : ∃ entered params,
    d.chain.runPre ctx = .ok entered ∧
      i.context = ({ entered with
        pathParams := params, endpoint := some b.endpoint } : RequestContext).moveTo .parsing := by
  obtain ⟨entered, params, _, passed, _, _, read⟩ := called?_eq_some called
  exact ⟨entered, params, passed, context_invocation read⟩

end Dispatcher

/-! ### Services -/

namespace App

variable {a : App} {files : Files} {portVariable : Option String} {service : Service}
  {auth : BearerAuth} {ctx entered : RequestContext}

/-- A service with authentication calls a handler only for a request whose header bears a token
that the verifier knows, as the user of that token, or for a request on a path that begins with
an exempted one, and lies under it if that one ends at a slash. Nothing but what the handler so
called makes of the call enters the answer. -/
theorem called_guarded (built : a.build files portVariable = .ok service)
    (guarded : a.auth = some auth) (ctx : RequestContext) :
    (∀ b i, service.dispatcher.called? ctx = some (b, i) →
      (∃ value token user, ctx.header? "authorization" = some value ∧
        BearerAuth.Bears value token ∧ auth.verifier token = .ok user ∧
        ((∀ s ∈ a.pre, s.Keeps fun ctx => ctx.caller.user) → i.context.caller.user = some user)) ∨
      ∃ start ∈ auth.exempt, (∃ rest, ctx.path = start ++ rest) ∧
        ((∃ stem, start = stem ++ "/") → Path.Under ctx.path start)) ∧
    ∀ handler fresh, (∀ b i, service.dispatcher.called? ctx = some (b, i) →
        handler b i = b.handler i) →
      (service.dispatcher.withHandlers handler).dispatch ctx fresh =
        service.dispatcher.dispatch ctx fresh := by
  refine ⟨fun b i called => ?_, fun handler fresh alike =>
    Dispatcher.dispatch_of_called alike fresh⟩
  obtain ⟨entered, params, passed, context⟩ := Dispatcher.context_of_called called
  have stages : a.chain.pre = requestIdBefore true :: auth.stage :: a.pre := by
    rw [chain, guarded]
    rfl
  -- The first stage changes the identifier only; what it makes is what authentication sees.
  rw [chain_of_build built] at passed
  obtain ⟨identified, taken, passed⟩ := (Chain.runPre_cons stages).mp passed
  obtain rfl := Except.ok.inj taken
  obtain ⟨verified, authenticated, passed⟩ := (Chain.runPre_cons rfl).mp passed
  rcases BearerAuth.before_eq_ok_iff.mp authenticated with ⟨exempt, _⟩ | ⟨_, user, proved, rfl⟩
  · obtain ⟨start, listed, rest, path⟩ := BearerAuth.isExempt_iff.mp exempt
    have path : ctx.path = start ++ rest := path
    refine .inr ⟨start, listed, ⟨rest, path⟩, ?_⟩
    rintro ⟨stem, slash⟩
    rw [path]
    exact Path.under_of_append slash
  · obtain ⟨value, token, header, bears, known⟩ := BearerAuth.user_eq_ok_iff.mp proved
    refine .inl ⟨value, token, user, header, bears, known, fun keep => ?_⟩
    rw [context]
    exact Chain.runPre_keeps keep passed

/-! ### A service with an open path -/

/-- A document with one operation at a path. -/
def playAt (path : String) : String :=
  "swagger: '2.0'\ndefinitions:\n  Ball:\npaths:\n  " ++ path ++ ":\n    get:\n" ++
    "      operationId: play\n      responses:\n        '200':\n          schema:\n" ++
    "            $ref: '#/definitions/Ball'\n"

/-- An application of the document that knows one token and asks for none below `/ping`. -/
def playing (path : String) : App where
  handlers := HandlerTable.empty.withHandler "play" fun _ => { ending := .answered .nothing }
  sources := [.text "games" (playAt path)]
  auth := some { verifier := TokenTable.verifier [("good", some "u-1")], exempt := ["/ping"] }

/-- A request with the token. -/
def trusted : RequestContext :=
  { id := ⟨1⟩, uri := { rawPath := "/play" },
    headers := [("authorization", Utf8.encode "Bearer good")] }

/-- The handler is called for the request with the token, as its user. -/
theorem called_guarded_playing :
    ∃ service b i, (playing "/play").build {} none = .ok service ∧
      service.dispatcher.called? trusted = some (b, i) ∧
      BearerAuth.Bears "Bearer good" "good" ∧ i.context.caller.user = some "u-1" := by
  have calls : (((playing "/play").build {} none).toOption.bind fun service =>
      service.dispatcher.called? trusted).isSome := by decide +kernel
  obtain ⟨⟨b, i⟩, called⟩ := Option.isSome_iff_exists.mp calls
  obtain ⟨service, built, called⟩ := Option.bind_eq_some_iff.mp called
  have built := toOption_eq_some.mp built
  have read : trusted.header? "authorization" = some "Bearer good" := by decide +kernel
  have bears : BearerAuth.Bears "Bearer good" "good" :=
    BearerAuth.bears_iff.mpr ⟨by decide, by rfl⟩
  have outside : ¬ ∃ rest, trusted.path = "/ping" ++ rest := by
    rintro ⟨rest, path⟩
    have cut := Text.stripStart?_eq_some_iff.mpr path
    have apart : Text.stripStart? "/ping" trusted.path = none := by decide +kernel
    rw [apart] at cut
    cases cut
  rcases (called_guarded built rfl trusted).1 b i called with
    ⟨value, token, user, header, again, known, as⟩ | ⟨start, listed, below, _⟩
  · obtain rfl := Option.some.inj (read.symm.trans header)
    have token := (BearerAuth.bears_iff.mp bears).2.symm.trans (BearerAuth.bears_iff.mp again).2
    obtain rfl := Except.ok.inj token
    obtain rfl : "u-1" = user := Except.ok.inj known
    exact ⟨service, b, i, built, called, bears, as (by simp [playing])⟩
  · obtain rfl := List.mem_singleton.mp listed
    exact absurd below outside

/-- A request that shows no token. -/
def stranger : RequestContext :=
  { id := ⟨1⟩, uri := { rawPath := "/pingpong" } }

/-- The handler of another path that begins with the same letters is called for a request
without any token. -/
theorem called_unguarded :
    ∃ service b i, (playing "/pingpong").build {} none = .ok service ∧
      service.dispatcher.called? stranger = some (b, i) ∧ b.route = "/pingpong" ∧
      stranger.header? "authorization" = none ∧
      ∀ auth, (playing "/pingpong").auth = some auth →
        ∀ start ∈ auth.exempt, ¬ Path.Under stranger.path start := by
  have calls : (((playing "/pingpong").build {} none).toOption.bind fun service =>
      (service.dispatcher.called? stranger).map fun call => call.1.route) =
        some "/pingpong" := by decide +kernel
  obtain ⟨service, built, calls⟩ := Option.bind_eq_some_iff.mp calls
  obtain ⟨⟨b, i⟩, called, route⟩ := Option.map_eq_some_iff.mp calls
  refine ⟨service, b, i, toOption_eq_some.mp built, called, route, rfl, ?_⟩
  rintro auth same start listed
  obtain rfl := Option.some.inj same
  obtain rfl := List.mem_singleton.mp listed
  have path : stranger.path = "/pingpong" := by decide +kernel
  have stem : (Text.stripEnd? "/" "/ping").getD "/ping" = "/ping" := by decide
  rw [path, Path.Under, stem]
  rintro (same | ⟨rest, longer⟩)
  · exact absurd same (by decide)
  · have cut := Text.stripStart?_eq_some_iff.mpr longer
    have apart : Text.stripStart? ("/ping" ++ "/") "/pingpong" = none := by decide
    rw [apart] at cut
    cases cut

end App

end ApiContract
