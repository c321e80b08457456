import ApiContract.Proofs.Decimal.Plain
import ApiContract.Proofs.Service.Outcome
import ApiContract.Proofs.Text.Utf8
import ApiContract.Proofs.Uuid
import ApiContract.Service.App

/-!
# Identifiers of requests

A request may bring an identifier along. The first stage puts it into the context, and the
stage after the call puts the identifier of the context into the response. The context is
handed on by every exit from the answer but one: a request that a stage refuses is answered
with the context in which it came, and so with the identifier that was made for it.

## Main definitions

* `Response.requestId?` — the identifier that a response carries
* `PreStage.Keeps`, `PostStage.KeepsId` — stages that leave something alone

## Main results

* `App.chain_of_build` — the stages of a service are those of its application
* `Dispatcher.id_answer` — which identifier the context of an answer has
* `App.requestId_dispatch` — which identifier a response carries
-/

namespace ApiContract

/-- The identifier that a response carries, read as that of a request is. -/
def Response.requestId? (r : Response) : Option Uuid :=
  (r.headers.text? requestIdHeader).bind fun text => Uuid.read? (Text.trim text)

/-- A stage before a call that leaves something of the requests alone that it lets through. -/
def PreStage.Keeps {α : Type} (s : PreStage) (read : RequestContext → α) : Prop :=
  ∀ ctx entered, s.before ctx = .ok entered → read entered = read ctx

/-- A stage after a call that leaves the header of the identifier alone. -/
def PostStage.KeepsId (s : PostStage) : Prop :=
  ∀ ctx r, (s.after ctx r).headers.get? requestIdHeader = r.headers.get? requestIdHeader

/-! ### Headers -/

theorem Headers.get?_set_self {headers : Headers} {name : String}
    (small : Text.lowerAscii name = name) (value : String) :
    (headers.set name value).get? name = some (Utf8.encode value) := by
  rw [get?, small, set, append]
  -- Whatever the name had before is filtered out, so that the new pair is the first of the name.
  induction headers with
  | nil => simp
  | cons h rest ih =>
    by_cases own : h.1 = name
    · rw [List.filter_cons_of_neg (by simp [own]), ih]
    · have other : (name == h.1) = false := beq_eq_false_iff_ne.mpr (Ne.symm own)
      rw [List.filter_cons_of_pos (by simp [own]), List.cons_append, List.lookup_cons, other, ih]

/-- Text of visible ASCII characters can be read from a header. -/
theorem Http.visible?_encode {s : String}
    (visible : ∀ c ∈ s.toList, 0x20 ≤ c.toNat ∧ c.toNat < 0x7F) :
    Http.visible? (Utf8.encode s) = some s := by
  rw [Http.visible?, if_pos, Utf8.decode?_encode]
  rw [List.all_eq_true]
  intro b member
  obtain ⟨c, inside, byte⟩ := List.mem_flatMap.mp member
  -- A character of this range is a single byte, its own number.
  obtain ⟨least, most⟩ := visible c inside
  have value : (UInt8.ofNat c.toNat).toNat = c.toNat := by
    rw [UInt8.toNat_ofNat', Nat.mod_eq_of_lt (by omega)]
  rw [Utf8.encodeChar_of_small (by omega), List.mem_singleton] at byte
  rw [byte]
  simp [UInt8.le_iff_toNat_le, UInt8.lt_iff_toNat_lt, value, least, most]

/-- An identifier is read from the header that it was written into. -/
theorem Response.requestId?_of_get? {r : Response} {id : Uuid}
    (carried : r.headers.get? requestIdHeader = some (Utf8.encode id.toText)) :
    r.requestId? = some id := by
  have characters : ∀ c ∈ id.toText.toList,
      (0x20 ≤ c.toNat ∧ c.toNat < 0x7F) ∧ Text.isBlank c = false := by
    intro c member
    rcases Uuid.mem_toText member with ⟨k, small, rfl⟩ | rfl
    · have all : ∀ k < 16, (0x20 ≤ (Hex.digit k).toNat ∧ (Hex.digit k).toNat < 0x7F) ∧
          Text.isBlank (Hex.digit k) = false := by decide
      exact all k small
    · decide
  have text : r.headers.text? requestIdHeader = some id.toText := by
    rw [Headers.text?, carried, Option.bind_some,
      Http.visible?_encode fun c member => (characters c member).1]
  rw [requestId?, text, Option.bind_some,
    Text.trim_of_unspaced fun c member => (characters c member).2, Uuid.read?_toText]

/-! ### Stages -/

namespace Chain

variable {c : Chain} {ctx entered : RequestContext} {r : Response}

theorem runPre_cons {s : PreStage} {rest : List PreStage} (stages : c.pre = s :: rest) :
    c.runPre ctx = .ok entered ↔
      ∃ next, s.before ctx = .ok next ∧ { c with pre := rest }.runPre next = .ok entered := by
  rw [runPre, stages, List.foldlM_cons]
  exact bind_eq_ok

/-- What every stage leaves alone is after the stages what it was. -/
theorem runPre_keeps {α : Type} {read : RequestContext → α} (keep : ∀ s ∈ c.pre, s.Keeps read)
    (passed : c.runPre ctx = .ok entered) : read entered = read ctx :=
  foldlM_invariant (fun x => read x = read ctx)
    (fun before after s member step same => (keep s member before after step).trans same) passed rfl

/-- Stages that leave the header alone leave it as it was. -/
theorem get?_runPost (keep : ∀ s ∈ c.post, s.KeepsId) :
    (c.runPost ctx r).headers.get? requestIdHeader = r.headers.get? requestIdHeader := by
  obtain ⟨pre, post⟩ := c
  rw [runPost]
  induction post generalizing r with
  | nil => rfl
  | cons s rest ih =>
    rw [List.foldl_cons, ih fun t member => keep t (List.mem_cons_of_mem _ member)]
    exact keep s List.mem_cons_self ctx r

end Chain

theorem BearerAuth.keeps_id (a : BearerAuth) : a.stage.Keeps RequestContext.id := by
  intro ctx entered passed
  rw [stage] at passed
  dsimp only at passed
  split at passed
  · obtain rfl := Except.ok.inj passed
    rfl
  · obtain ⟨user, _, passed⟩ := bind_eq_ok.mp passed
    obtain rfl := Except.ok.inj passed
    rfl

namespace App

variable {a : App} {files : Files} {portVariable : Option String} {service : Service}
  {ctx entered : RequestContext} {id : Uuid}

/-- The stages of a service are those of its application. -/
theorem chain_of_build (built : a.build files portVariable = .ok service) :
    service.dispatcher.chain = a.chain := by
  obtain ⟨_, _, built⟩ := bind_eq_ok.mp built
  obtain ⟨_, _, built⟩ := bind_eq_ok.mp built
  obtain ⟨⟨registry, apis⟩, _, built⟩ := bind_eq_ok.mp built
  obtain ⟨dispatcher, routed, built⟩ := bind_eq_ok.mp built
  obtain ⟨routes, _, placed⟩ := bind_eq_ok.mp (mapError_eq_ok.mp routed)
  obtain rfl := Except.ok.inj placed
  obtain rfl := Except.ok.inj built
  rfl

/-- A request that passes the stages has the identifier that it brings along. -/
theorem id_runPre (keep : ∀ s ∈ a.pre, s.Keeps RequestContext.id)
    (brought : incomingId? ctx = some id)
    (passed : a.chain.runPre ctx = .ok entered) : entered.id = id := by
  -- The first stage takes the identifier over, and no stage after it changes it again.
  obtain ⟨first, taken, passed⟩ := (Chain.runPre_cons rfl).mp passed
  obtain rfl := Except.ok.inj taken
  have others : ∀ s ∈ (a.auth.map BearerAuth.stage).toList ++ a.pre,
      s.Keeps RequestContext.id := by
    intro s member
    rcases List.mem_append.mp member with auth | own
    · obtain ⟨b, _, rfl⟩ := Option.map_eq_some_iff.mp (Option.mem_toList.mp auth)
      exact b.keeps_id
    · exact keep s own
  rw [Chain.runPre_keeps others passed, if_pos rfl, brought]
  rfl

/-- A response has the identifier of the context in its header. -/
theorem requestId?_runPost (keep : ∀ s ∈ a.post, s.KeepsId) (ctx : RequestContext)
    (r : Response) : (a.chain.runPost ctx r).requestId? = some ctx.id := by
  apply Response.requestId?_of_get?
  have others : ∀ s ∈ a.post ++ [accessLog], s.KeepsId := by
    intro s member
    rcases List.mem_append.mp member with own | log
    · exact keep s own
    · obtain rfl := List.mem_singleton.mp log
      exact fun _ _ => rfl
  calc (a.chain.runPost ctx r).headers.get? requestIdHeader
      = (({ post := a.post ++ [accessLog] } : Chain).runPost ctx
          (requestIdAfter.after ctx r)).headers.get? requestIdHeader := rfl
    _ = (requestIdAfter.after ctx r).headers.get? requestIdHeader := Chain.get?_runPost others
    _ = some (Utf8.encode ctx.id.toText) := Headers.get?_set_self (by decide) _

end App

/-! ### Answers -/

namespace Dispatcher

variable {d : Dispatcher} {ctx entered : RequestContext} {b : Binding} {f : Failure}
  {fresh : Uuid}

theorem id_call : (d.call ctx b fresh).context.id = ctx.id := by
  rw [call]
  cases d.execute ctx b with
  | error f => rfl
  | ok result => rfl

theorem id_route : (d.route ctx fresh).context.id = ctx.id := by
  rw [route]
  cases d.routes.resolve ctx.method ctx.path with
  | matched b params => exact id_call
  | methodNotAllowed allowed => rfl
  | notFound => rfl

/-- A request that the stages let through is answered with the identifier that they have left
it, whatever its outcome. One that a stage refuses is answered with the one it came with. -/
theorem id_answer (d : Dispatcher) (ctx : RequestContext) (fresh : Uuid) :
    (d.answer ctx fresh).context.id =
      ((d.chain.runPre ctx).toOption.getD ctx).id := by
  rw [answer]
  cases d.chain.runPre ctx with
  | ok entered => exact id_route
  | error f => rfl

end Dispatcher

/-! ### Services -/

namespace App

variable {a : App} {files : Files} {portVariable : Option String} {service : Service}
  {ctx : RequestContext} {id : Uuid}

/-- The response to a request carries the identifier that the request brings along, whatever
its outcome, if the stages let it through. The response to a request that a stage refuses
carries the identifier that was made for it. -/
theorem requestId_dispatch (built : a.build files portVariable = .ok service)
    (pre : ∀ s ∈ a.pre, s.Keeps RequestContext.id) (post : ∀ s ∈ a.post, s.KeepsId)
    (brought : incomingId? ctx = some id) (fresh : Uuid) :
    (service.dispatcher.dispatch ctx fresh).response.requestId? =
      some (if (service.dispatcher.chain.runPre ctx).isOk then id else ctx.id) := by
  have chain := chain_of_build built
  have carried : (service.dispatcher.dispatch ctx fresh).response.requestId? =
      some (service.dispatcher.answer ctx fresh).context.id := by
    rw [Dispatcher.dispatch, Dispatcher.finish, chain]
    exact requestId?_runPost post _ _
  rw [carried, Dispatcher.id_answer, chain]
  cases passed : a.chain.runPre ctx with
  | ok entered => exact congrArg some (id_runPre pre brought passed)
  | error f => rfl

/-! ### A service that asks for tokens -/

/-- An application without documents whose paths but one ask for a token that nobody has. -/
def locked : App :=
  { auth := some { verifier := TokenTable.verifier [], exempt := ["/version"] } }

/-- A request that brings an identifier along. -/
def identified (path : String) : RequestContext :=
  { id := ⟨1⟩, uri := { rawPath := path },
    headers := [(requestIdHeader, Utf8.encode (Uuid.toText ⟨2⟩))] }

/-- A request to the open path gets its own identifier back, and one to another path the
identifier that was made for it. -/
theorem requestId_dispatch_locked :
    ∃ service, locked.build {} none = .ok service ∧
      incomingId? (identified "/version") = some ⟨2⟩ ∧
      (service.dispatcher.dispatch (identified "/version") ⟨3⟩).response.requestId? = some ⟨2⟩ ∧
      (service.dispatcher.dispatch (identified "/ping") ⟨3⟩).response.requestId? = some ⟨1⟩ := by
  have builds : (locked.build {} none).toOption.isSome := by decide +kernel
  obtain ⟨service, built⟩ := Option.isSome_iff_exists.mp builds
  have built := toOption_eq_some.mp built
  have brought : incomingId? (identified "/version") = some ⟨2⟩ ∧
      incomingId? (identified "/ping") = some ⟨2⟩ := by decide +kernel
  have passed : (locked.chain.runPre (identified "/version")).isOk = true := by decide +kernel
  have refused : (locked.chain.runPre (identified "/ping")).isOk = false := by decide +kernel
  have here := requestId_dispatch built (by simp [locked]) (by simp [locked]) brought.1 ⟨3⟩
  have there := requestId_dispatch built (by simp [locked]) (by simp [locked]) brought.2 ⟨3⟩
  rw [chain_of_build built, passed] at here
  rw [chain_of_build built, refused] at there
  exact ⟨service, built, brought.1, here, there⟩

/-- The identifier of a request without token is lost: the response carries another one. -/
theorem requestId_dispatch_lost :
    ∃ service, locked.build {} none = .ok service ∧
      incomingId? (identified "/ping") = some ⟨2⟩ ∧
      (service.dispatcher.dispatch (identified "/ping") ⟨3⟩).response.requestId? ≠
        some ⟨2⟩ := by
  have builds : ((locked.build {} none).toOption.map fun service =>
      (service.dispatcher.dispatch (identified "/ping") ⟨3⟩).response.requestId?) =
        some (some ⟨1⟩) := by decide +kernel
  obtain ⟨service, built, carried⟩ := Option.map_eq_some_iff.mp builds
  refine ⟨service, toOption_eq_some.mp built, by decide +kernel, ?_⟩
  rw [carried]
  decide

end App

end ApiContract
