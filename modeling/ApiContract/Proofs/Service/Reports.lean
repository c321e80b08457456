import ApiContract.Proofs.Service.Guard

/-!
# What is reported

A request fails, or a handler has been called for it and there is a response. The reports of an
answer follow from which of the two it is: a failure is reported when it is the server's or
marked for it, and a call that came to a response when it took too long. A reply that a handler
has made itself counts as a response whatever its status is, so that its failures are known to
the client only.

## Main definitions

* `Dispatcher.result` — what a request comes to before it is answered
* `Dispatcher.Accounts` — the reports that go with what a request came to

## Main results

* `Dispatcher.execute_eq_ok` — a response is a handler's own reply, or reports success
* `Dispatcher.accounts_answer` — the reports of an answer
* `Dispatcher.reports_dispatch` — what is reported of a request, however it is answered
-/

namespace ApiContract.Dispatcher

variable {d : Dispatcher} {ctx : RequestContext} {b : Binding} {f : Failure} {r : Response}
  {run : Run} {fresh : Uuid}

/-- What a request comes to before it is answered: a failure, or a response with the run of the
handler that was called for it. -/
def result (d : Dispatcher) (ctx : RequestContext) : Except Failure (Response × Run) := do
  let ctx ← d.chain.runPre ctx
  match d.routes.resolve ctx.method ctx.path with
  | .matched b params =>
    d.execute { ctx with pathParams := params, endpoint := some b.endpoint } b
  | .methodNotAllowed _ =>
    throw { kind := .methodNotAllowed,
            description := s!"{ctx.method} is not allowed on {ctx.path}" }
  | .notFound =>
    throw { kind := .notFound, description := s!"no route for {ctx.method} {ctx.path}" }

/-- The reports that go with what a request came to and with the response it is answered with: a
single fatal one with a status of 5xx, save for a reply that a handler has made itself; with
another failure a single one that is not fatal, if the failure is marked for it; and with a
response a single one of a slow call, if the call took longer than it may. -/
structure Accounts (d : Dispatcher) (result : Except Failure (Response × Run)) (r : Response)
    (reports : List CrashReport) : Prop where
  status : ∀ f, result = .error f → r.status = f.status
  response : ∀ made run, result = .ok (made, run) → r = made
  fatal : r.status.isServerError →
    (∀ run, result = .ok (r, run) → run.ending ≠ .answered (.reply r)) →
    ∃ report, reports = [report] ∧ report.isFatal
  failed : ∀ f, result = .error f → ¬ r.status.isServerError →
    if f.reportable then ∃ report, reports = [report] ∧ ¬ report.isFatal else reports = []
  slow : ∀ run, result = .ok (r, run) →
    if d.slowCall.any (fun limit => limit * 1000000 < run.elapsed) then
      ∃ report, reports = [report] ∧ ¬ report.isFatal ∧ report.code = "SLOW_CALL"
    else reports = []

/-! ### Failures -/

theorem reports_fail (enabled : d.desk.enabled) (ctx : RequestContext) (b : Option Binding)
    (f : Failure) (fresh : Uuid) :
    (d.fail ctx b f fresh).reports =
      if f.shouldReport then [d.desk.ofFailure (ctx.moveTo .error) (f.ensureId fresh)] else [] := by
  have same : (f.ensureId fresh).shouldReport = f.shouldReport := rfl
  simp only [fail, same, enabled, Bool.and_true]

/-- A failure is accounted for in every response with its status. -/
theorem accounts_fail (enabled : d.desk.enabled) (ctx : RequestContext) (b : Option Binding)
    (fresh : Uuid) (same : r.status = f.status) :
    d.Accounts (.error f) r (d.fail ctx b f fresh).reports where
  status g failed := by
    obtain rfl := Except.error.inj failed
    exact same
  response made run succeeded := by cases succeeded
  fatal serverError _ := by
    -- The status alone decides whether a failure is fatal, and a fatal one needs no mark.
    have fatal : f.isFatal := by rwa [Failure.isFatal, ← same]
    rw [reports_fail enabled, Failure.shouldReport, fatal, Bool.true_or, if_pos rfl]
    exact ⟨_, rfl, fatal⟩
  failed g failed clientError := by
    obtain rfl := Except.error.inj failed
    have mild : f.isFatal = false := by rwa [Failure.isFatal, ← same, ← Bool.not_eq_true]
    rw [reports_fail enabled, Failure.shouldReport, mild, Bool.false_or]
    split
    · have kept : (f.ensureId fresh).isFatal = false := mild
      exact ⟨_, rfl, by simp [CrashDesk.ofFailure, CrashDesk.report, kept]⟩
    · rfl
  slow run succeeded := by cases succeeded

/-! ### Responses -/

theorem outcome_eq_ok_iff {o : Outcome} :
    d.outcome b run = .ok o ↔ ¬ run.overruns d.timeout ∧ run.ending = .answered o := by
  rw [outcome]
  split
  · rename_i late
    simp [late]
  · rename_i inTime
    cases ending : run.ending <;> simp [Ending.outcome, inTime]

/-- Only a reply is let through as a reply. -/
theorem eq_reply_of_check {models : ModelSet} {o : Outcome}
    (checked : b.check models o = .ok (.reply r)) : o = .reply r := by
  cases o with
  | «instance» i =>
    rw [Binding.check] at checked
    split at checked
    · split at checked
      · cases checked
      · cases checked
    · cases checked
  | reply made =>
    obtain rfl := Verified.reply.inj (Except.ok.inj checked)
    rfl
  | nothing => cases checked
  | value j => cases checked

/-- The response of a call is the handler's own reply, or it reports success. -/
theorem execute_eq_ok (executed : d.execute ctx b = .ok (r, run)) :
    run.ending = .answered (.reply r) ∨ r.status = .ok := by
  rw [execute] at executed
  cases known : d.registry.get? b.api with
  | none =>
    rw [known] at executed
    cases executed
  | some models =>
    rw [known] at executed
    obtain ⟨i, _, executed⟩ := bind_eq_ok.mp executed
    obtain ⟨o, came, executed⟩ := bind_eq_ok.mp executed
    obtain ⟨v, checked, executed⟩ := bind_eq_ok.mp executed
    cases v with
    | «instance» i =>
      obtain ⟨rfl, _⟩ := Prod.mk.inj (Except.ok.inj executed)
      exact .inr rfl
    | reply made =>
      obtain ⟨rfl, rfl⟩ := Prod.mk.inj (Except.ok.inj executed)
      obtain rfl := eq_reply_of_check checked
      exact .inl (outcome_eq_ok_iff.mp came).2

theorem reports_slowReports (enabled : d.desk.enabled) (ctx : RequestContext) (status : Status)
    (run : Run) :
    if d.slowCall.any (fun limit => limit * 1000000 < run.elapsed) then
      ∃ report, d.slowReports ctx status run = [report] ∧ ¬ report.isFatal ∧
        report.code = "SLOW_CALL"
    else d.slowReports ctx status run = [] := by
  rw [slowReports, enabled, Bool.true_and]
  split
  · exact ⟨_, rfl, by simp [CrashDesk.ofSlowCall], rfl⟩
  · rfl

/-- The end of a call is accounted for. -/
theorem accounts_call (enabled : d.desk.enabled) (ctx : RequestContext) (b : Binding)
    (fresh : Uuid) :
    d.Accounts (d.execute ctx b) (d.call ctx b fresh).response (d.call ctx b fresh).reports := by
  rw [call]
  cases executed : d.execute ctx b with
  | error f => exact accounts_fail enabled ctx (some b) fresh rfl
  | ok x =>
    obtain ⟨r, run⟩ := x
    refine ⟨fun f failed => (by cases failed), ?_, ?_, fun f failed => (by cases failed), ?_⟩
    · rintro made other same
      obtain ⟨rfl, _⟩ := Prod.mk.inj (Except.ok.inj same)
      rfl
    · -- A 5xx is no success, so that it can only be the handler's own reply.
      intro serverError foreign
      rcases execute_eq_ok executed with reply | success
      · exact absurd reply (foreign run rfl)
      · have serverError : r.status.isServerError := serverError
        rw [success] at serverError
        cases serverError
    · rintro other same
      obtain ⟨_, rfl⟩ := Prod.mk.inj (Except.ok.inj same)
      exact reports_slowReports enabled _ _ run

/-! ### Requests -/

/-- Every answer is accounted for. -/
theorem accounts_answer (enabled : d.desk.enabled) (ctx : RequestContext) (fresh : Uuid) :
    d.Accounts (d.result ctx) (d.answer ctx fresh).response (d.answer ctx fresh).reports := by
  rw [result, answer]
  cases d.chain.runPre ctx with
  | error f => exact accounts_fail enabled ctx none fresh rfl
  | ok entered =>
    show d.Accounts (match d.routes.resolve entered.method entered.path with
      | .matched b params => _ | .methodNotAllowed _ => _ | .notFound => _)
      (d.route entered fresh).response (d.route entered fresh).reports
    rw [route]
    cases d.routes.resolve entered.method entered.path with
    | matched b params => exact accounts_call enabled _ b fresh
    | methodNotAllowed allowed => exact accounts_fail enabled entered none fresh rfl
    | notFound => exact accounts_fail enabled entered none fresh rfl

/-- A handler that is not done by the deadline has failed, and not by a fault of the server. -/
theorem result_of_late {i : Invocation} (called : d.called? ctx = some (b, i))
    (late : (b.handler i).overruns d.timeout) :
    ∃ f, d.result ctx = .error f ∧ f.kind = .requestTimeout ∧ f.reportable = false := by
  obtain ⟨entered, params, models, passed, resolved, known, read⟩ := called?_eq_some called
  let f : Failure :=
    { kind := .requestTimeout
      description := s!"{b.handlerName} did not complete within {d.timeout} ms" }
  have cut : d.outcome b (b.handler i) = .error f := if_pos late
  refine ⟨f, ?_, rfl, rfl⟩
  rw [result, passed]
  simp only [bind, Except.bind, resolved, execute, known, read, cut]

/-- Where reporting is enabled, the reports of a request go with what it came to and with the
response that the last stages are given: a failure of the server is reported as fatal, one of
the client only if it is marked for it, and a call that came to a response only if it was slow.
A handler that is not done by the deadline is never reported. A reply of 5xx that a handler has
made itself is no failure here, and not reported for its status. -/
theorem reports_dispatch (enabled : d.desk.enabled) (ctx : RequestContext) (fresh : Uuid) :
    d.Accounts (d.result ctx) (d.answer ctx fresh).response (d.dispatch ctx fresh).reports ∧
    (∀ b i, d.called? ctx = some (b, i) → (b.handler i).overruns d.timeout →
      (d.dispatch ctx fresh).reports = []) ∧
    ∀ f, d.Accounts (.error f) (d.fail ctx none f fresh).response
      (d.reject ctx f fresh).reports := by
  have accounts := accounts_answer enabled ctx fresh
  refine ⟨accounts, fun b i called late => ?_, fun f => accounts_fail enabled ctx none fresh rfl⟩
  -- The deadline is a failure below 5xx that nothing marks, as any other such failure.
  obtain ⟨f, failed, kind, unmarked⟩ := result_of_late called late
  have status : (d.answer ctx fresh).response.status = .requestTimeout := by
    rw [accounts.status f failed, Failure.status, kind]
    rfl
  have none := accounts.failed f failed (by rw [status]; decide)
  rwa [unmarked, if_neg Bool.false_ne_true] at none

/-! ### Handlers of items -/

/-- The dispatcher of items with a handler that ends in a way, where requests take some
milliseconds. -/
def itemServer (ending : Ending) (ms : Nat) : Dispatcher :=
  itemService.withHandlers fun _ _ => { ending, elapsed := ms * 1000000 + 1 }

/-- A request for an item by its number. -/
def itemTwo : RequestContext :=
  { id := ⟨1⟩, uri := { rawPath := "/items/2" } }

/-- A handler that finds nothing is a fault of the server. -/
theorem reports_dispatch_items :
    (itemServer (.answered .nothing) 0).desk.enabled ∧
      ((itemServer (.answered .nothing) 0).answer itemTwo ⟨2⟩).response.status.code = 500 ∧
      ∃ report, ((itemServer (.answered .nothing) 0).dispatch itemTwo ⟨2⟩).reports = [report] ∧
        report.isFatal := by
  have status : ((itemServer (.answered .nothing) 0).answer itemTwo ⟨2⟩).response.status.code =
      500 := by decide +kernel
  have failed : ((itemServer (.answered .nothing) 0).result itemTwo).toOption.isNone := by
    decide +kernel
  have enabled : (itemServer (.answered .nothing) 0).desk.enabled := rfl
  obtain ⟨accounts, _⟩ := reports_dispatch enabled itemTwo ⟨2⟩
  have serverError : ((itemServer (.answered .nothing) 0).answer itemTwo
      ⟨2⟩).response.status.isServerError := by
    rw [Status.isServerError, status]
    rfl
  refine ⟨enabled, status, accounts.fatal serverError fun run succeeded => ?_⟩
  rw [succeeded] at failed
  cases failed

/-- A reply that says that the service is not there. -/
def unavailable : Ending := .answered (.reply { status := { code := 503 } })

/-- A handler's own reply of 503 is not reported, and as a slow call at most. -/
theorem dispatch_unreported :
    (itemServer unavailable 0).desk.enabled ∧
      ((itemServer unavailable 0).answer itemTwo ⟨2⟩).response.status.code = 503 ∧
      ((itemServer unavailable 0).dispatch itemTwo ⟨2⟩).reports = [] ∧
      ((itemServer unavailable 1500).answer itemTwo ⟨2⟩).response.status.code = 503 ∧
      ((itemServer unavailable 1500).dispatch itemTwo ⟨2⟩).reports.map (·.isFatal) = [false] := by
  decide +kernel

end ApiContract.Dispatcher
