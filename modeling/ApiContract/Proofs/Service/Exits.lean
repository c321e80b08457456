import ApiContract.Proofs.Service.Acceptance
import ApiContract.Proofs.Service.Routes

/-!
# How requests end

A request ends with the reply of a handler, with an instance that a handler has returned, or
with a failure, and what a client is told of a failure depends on where it arises. The
relations below say when a request ends in which way. There is one for every stage of an
answer, from the handler's own end outwards to the request, and each of them leaves at most
one way.

## Main definitions

* `Origin`, `Exit` — where failures arise, and how requests end
* `Binding.Concludes`, `Dispatcher.Completes` — the end of a handler, and of its run
* `Dispatcher.Executes`, `Dispatcher.Routes` — the end of a call, and of a routed request
* `Dispatcher.Ends` — the end of a request
* `Exit.isEarly` — the exits that are taken before a handler is run

## Main results

* `Dispatcher.Ends.unique` — a request ends in one way
-/

namespace ApiContract

/-- Where a failure arises: in a stage before the call, for want of a route or of a method,
in what the client has sent, by the deadline, in the handler, or in its result. -/
inductive Origin where
  | stage (f : Failure)
  | noRoute
  | wrongMethod
  | input (f : Failure)
  | deadline
  | handler (f : Failure)
  | handlerModel (e : ModelError)
  | handlerOther
  | panic
  | badResult
  | invalidResult (e : ModelError)

/-- How a request ends. -/
inductive Exit where
  | replied (r : Response)
  | returned (i : Instance)
  | failed (o : Origin)

/-- Whether an exit is taken before a handler is run. -/
def Exit.isEarly : Exit → Bool
  | .failed (.stage _) | .failed .noRoute | .failed .wrongMethod | .failed (.input _) => true
  | _ => false

variable {d : Dispatcher} {b : Binding} {models : ModelSet} {ctx : RequestContext}
  {exit other : Exit}

/-! ### The end of a handler -/

/-- How a request ends whose handler has come to an end in time. -/
inductive Binding.Concludes (b : Binding) (models : ModelSet) : Ending → Exit → Prop
  | reply (r : Response) : b.Concludes models (.answered (.reply r)) (.replied r)
  | returned {i : Instance} (declared : b.Declares models i.model.name)
      (valid : i.validate = .ok ()) :
      b.Concludes models (.answered (.instance i)) (.returned i)
  | invalid {i : Instance} {e : ModelError} (declared : b.Declares models i.model.name)
      (refused : i.validate = .error e) :
      b.Concludes models (.answered (.instance i)) (.failed (.invalidResult e))
  | undeclared {i : Instance} (undeclared : ¬ b.Declares models i.model.name) :
      b.Concludes models (.answered (.instance i)) (.failed .badResult)
  | value (j : Json) : b.Concludes models (.answered (.value j)) (.failed .badResult)
  | nothing : b.Concludes models (.answered .nothing) (.failed .badResult)
  | failure (f : Failure) : b.Concludes models (.failed (.failure f)) (.failed (.handler f))
  | model (e : ModelError) :
      b.Concludes models (.failed (.model e)) (.failed (.handlerModel e))
  | other (message : String) (causes : List String) :
      b.Concludes models (.failed (.other message causes)) (.failed .handlerOther)
  | panicked (message : Option String) :
      b.Concludes models (.panicked message) (.failed .panic)

namespace Binding.Concludes

theorem unique {ending : Ending} (first : b.Concludes models ending exit)
    (second : b.Concludes models ending other) : exit = other := by
  cases first with
  | reply | value | nothing | failure | model | other | panicked =>
    cases second
    rfl
  | returned declared valid =>
    -- The three exits of an instance exclude each other by what they say of it.
    cases second with
    | returned => rfl
    | invalid _ refused =>
      rw [valid] at refused
      cases refused
    | undeclared undeclared => exact absurd declared undeclared
  | invalid declared refused =>
    cases second with
    | returned _ valid =>
      rw [valid] at refused
      cases refused
    | invalid _ again =>
      rw [refused] at again
      obtain rfl := Except.error.inj again
      rfl
    | undeclared undeclared => exact absurd declared undeclared
  | undeclared undeclared =>
    cases second with
    | returned declared | invalid declared => exact absurd declared undeclared
    | undeclared => rfl

theorem not_early {ending : Ending} (concludes : b.Concludes models ending exit) :
    exit.isEarly = false := by
  cases concludes <;> rfl

end Binding.Concludes

namespace Dispatcher

/-- How a request ends by the run of its handler. -/
inductive Completes (d : Dispatcher) (b : Binding) (models : ModelSet) (run : Run) : Exit → Prop
  | late (late : run.overruns d.timeout) : d.Completes b models run (.failed .deadline)
  | inTime {exit : Exit} (inTime : ¬ run.overruns d.timeout)
      (concludes : b.Concludes models run.ending exit) : d.Completes b models run exit

namespace Completes

theorem unique {run : Run} (first : d.Completes b models run exit)
    (second : d.Completes b models run other) : exit = other := by
  cases first with
  | late late =>
    cases second with
    | late => rfl
    | inTime inTime => exact absurd late inTime
  | inTime inTime concludes =>
    cases second with
    | late late => exact absurd late inTime
    | inTime _ again => exact concludes.unique again

theorem not_early {run : Run} (completes : d.Completes b models run exit) :
    exit.isEarly = false := by
  cases completes with
  | late => rfl
  | inTime _ concludes => exact concludes.not_early

end Completes

/-! ### The end of a call -/

/-- How a call of a binding ends: what its handler is given cannot be read, or the handler
is run. -/
inductive Executes (d : Dispatcher) (ctx : RequestContext) (b : Binding) : Exit → Prop
  | unread {models : ModelSet} {f : Failure} (known : d.registry.get? b.api = some models)
      (refused : d.invocation models (ctx.moveTo .parsing) b = .error f) :
      d.Executes ctx b (.failed (.input f))
  | called {models : ModelSet} {i : Invocation} {exit : Exit}
      (known : d.registry.get? b.api = some models)
      (read : d.invocation models (ctx.moveTo .parsing) b = .ok i)
      (completes : d.Completes b models (b.handler i) exit) : d.Executes ctx b exit

theorem Executes.unique (first : d.Executes ctx b exit) (second : d.Executes ctx b other) :
    exit = other := by
  cases first with
  | unread known refused =>
    cases second with
    | unread known' refused' =>
      obtain rfl := Option.some.inj (known.symm.trans known')
      obtain rfl := Except.error.inj (refused.symm.trans refused')
      rfl
    | called known' read =>
      obtain rfl := Option.some.inj (known.symm.trans known')
      cases refused.symm.trans read
  | called known read completes =>
    cases second with
    | unread known' refused =>
      obtain rfl := Option.some.inj (known.symm.trans known')
      cases refused.symm.trans read
    | called known' read' completes' =>
      obtain rfl := Option.some.inj (known.symm.trans known')
      obtain rfl := Except.ok.inj (read.symm.trans read')
      exact completes.unique completes'

/-! ### The end of a request -/

/-- How a request ends that the stages before the call have let through. -/
inductive Routes (d : Dispatcher) (ctx : RequestContext) : Exit → Prop
  | noRoute (nowhere : ∀ b ∈ d.routes.bindings, ¬ RouteTable.Matches ctx.path b) :
      d.Routes ctx (.failed .noRoute)
  | wrongMethod (somewhere : ∃ b ∈ d.routes.bindings, RouteTable.Matches ctx.path b)
      (otherwise : ∀ b ∈ d.routes.bindings, RouteTable.Matches ctx.path b →
        b.method ≠ ctx.method) : d.Routes ctx (.failed .wrongMethod)
  | routed {b : Binding} {params : List (String × String)} {exit : Exit}
      (resolved : d.routes.resolve ctx.method ctx.path = .matched b params)
      (executes : d.Executes { ctx with pathParams := params, endpoint := some b.endpoint } b
        exit) : d.Routes ctx exit

/-- How a request ends by what its path and its method resolve to. -/
theorem Routes.of_resolve (routes : d.Routes ctx exit) :
    match d.routes.resolve ctx.method ctx.path with
    | .matched b params =>
      d.Executes { ctx with pathParams := params, endpoint := some b.endpoint } b exit
    | .methodNotAllowed _ => exit = .failed .wrongMethod
    | .notFound => exit = .failed .noRoute := by
  -- What the path and the method resolve to says which bindings match, and so which exit.
  have same := d.routes.resolve_eq ctx.method ctx.path
  cases resolved : d.routes.resolve ctx.method ctx.path with
  | matched b params =>
    obtain ⟨member, fits, same⟩ := RouteTable.resolution_matched (same.symm.trans resolved)
    cases routes with
    | noRoute nowhere => exact absurd fits (nowhere b member)
    | wrongMethod _ otherwise => exact absurd same (otherwise b member fits)
    | routed resolved' executes =>
      obtain ⟨rfl, rfl⟩ := Resolution.matched.inj (resolved.symm.trans resolved')
      exact executes
  | methodNotAllowed allowed =>
    obtain ⟨⟨b, member, fits⟩, _⟩ :=
      RouteTable.resolution_methodNotAllowed (same.symm.trans resolved)
    cases routes with
    | noRoute nowhere => exact absurd fits (nowhere b member)
    | wrongMethod => rfl
    | routed resolved' => cases resolved.symm.trans resolved'
  | notFound =>
    cases routes with
    | noRoute => rfl
    | wrongMethod somewhere =>
      obtain ⟨b, member, fits⟩ := somewhere
      exact absurd fits (RouteTable.resolution_notFound (same.symm.trans resolved) b member)
    | routed resolved' => cases resolved.symm.trans resolved'

theorem Routes.unique (first : d.Routes ctx exit) (second : d.Routes ctx other) :
    exit = other := by
  have here := first.of_resolve
  have there := second.of_resolve
  cases resolved : d.routes.resolve ctx.method ctx.path with
  | matched b params =>
    simp only [resolved] at here there
    exact here.unique there
  | methodNotAllowed allowed =>
    simp only [resolved] at here there
    exact here.trans there.symm
  | notFound =>
    simp only [resolved] at here there
    exact here.trans there.symm

/-- How a request ends: a stage before the call refuses it, or it is routed. -/
inductive Ends (d : Dispatcher) (ctx : RequestContext) : Exit → Prop
  | refused {f : Failure} (refusal : d.chain.runPre ctx = .error f) :
      d.Ends ctx (.failed (.stage f))
  | entered {entered : RequestContext} {exit : Exit} (passed : d.chain.runPre ctx = .ok entered)
      (routes : d.Routes entered exit) : d.Ends ctx exit

/-- A request ends in one way. -/
theorem Ends.unique (first : d.Ends ctx exit) (second : d.Ends ctx other) : exit = other := by
  cases first with
  | refused refusal =>
    cases second with
    | refused refusal' =>
      obtain rfl := Except.error.inj (refusal.symm.trans refusal')
      rfl
    | entered passed => cases refusal.symm.trans passed
  | entered passed routes =>
    cases second with
    | refused refusal => cases refusal.symm.trans passed
    | entered passed' routes' =>
      obtain rfl := Except.ok.inj (passed.symm.trans passed')
      exact routes.unique routes'

end Dispatcher

end ApiContract
