import ApiContract.Contract.Compile
import ApiContract.Proofs.Registry

/-!
# Compiled APIs and their registry

Compiling a contract registers its models under the name of the API that its bindings carry,
whether the models are compiled or come from an artifact. Registrations only ever add sets,
so a registry keeps the models of an API through everything that is compiled after it, also
through compilations that fail halfway.

## Main definitions

* `CompiledApi.CompiledInto` — an API was compiled into a registry, which may have grown since

## Main results

* `Contract.loadModels_eq_ok_iff` — where the models of a contract come from
* `Route.bind_eq_ok_iff` — when an operation is bound, and to what
* `Compiler.compile_eq_ok_iff` — when an API is compiled, and to what
* `Compiler.registry_compile` — what compiling does to the registry
* `CompiledApi.CompiledInto.get?` — the registry has the models of the API
* `CompiledApi.CompiledInto.api_of_mem` — the bindings of the API name it
-/

namespace ApiContract

/-! ### Sets of models carry the name of their contract -/

theorem ModelSet.api_foldl_insert (models : List Model) (s : ModelSet) :
    (models.foldl insert s).api = s.api := by
  induction models generalizing s with
  | nil => rfl
  | cons m rest ih => exact ih (s.insert m)

theorem Artifact.api_toModels (a : Artifact) : a.toModels.api = a.api :=
  ModelSet.api_foldl_insert a.models { api := a.api }

namespace Contract

variable {c : Contract} {set : ModelSet} {f g : Files} {l : Location}
  {directory : Option String} {force : Bool}

theorem models_api (compiled : c.models = .ok set) : set.api = c.api :=
  (compileModels_closed compiled).2

/-- What is compiled anew is written with its document's path, if it has a file, and the time of
the clock. -/
theorem rebuild_eq_ok_iff : c.rebuild f l = .ok (set, g) ↔
    c.models = .ok set ∧ (c.file.isSome → c.source?.isSome) ∧
      (Artifact.ofModels set c.source? (Instant.ofUnix f.clock)).write f l = .ok g := by
  constructor
  · intro built
    obtain ⟨compiled, ok, built⟩ := bind_eq_ok.mp built
    dsimp only at built
    split at built
    · obtain ⟨_, _, refused⟩ := bind_eq_ok.mp built
      cases refused
    · rename_i named
      obtain ⟨written, wrote, built⟩ := bind_eq_ok.mp built
      obtain ⟨rfl, rfl⟩ := Prod.mk.inj (Except.ok.inj built)
      simp only [Bool.and_eq_true, not_and, Bool.not_eq_true, Option.isNone_eq_false_iff] at named
      exact ⟨ok, named, wrote⟩
  · rintro ⟨compiled, named, write⟩
    refine bind_eq_ok.mpr ⟨set, compiled, ?_⟩
    have named : ¬ (c.file.isSome && c.source?.isNone) := by
      simpa only [Bool.and_eq_true, not_and, Bool.not_eq_true, Option.isNone_eq_false_iff] using
        named
    dsimp only
    rw [if_neg named]
    exact bind_eq_ok.mpr ⟨g, write, rfl⟩

/-- An artifact is used when it is as new as the document and has the name of its API. -/
theorem freshArtifact?_eq_some_iff {a : Artifact} :
    c.freshArtifact? f l = .ok (some a) ↔
      c.isFresh f l ∧ Artifact.read f l = .ok a ∧ a.api = c.api := by
  rw [freshArtifact?]
  by_cases fresh : c.isFresh f l
  · rw [fresh, Bool.not_true, if_neg Bool.false_ne_true, bind_eq_ok]
    constructor
    · rintro ⟨b, read, kept⟩
      by_cases own : b.api = c.api
      · rw [if_pos own] at kept
        obtain rfl := Option.some.inj (Except.ok.inj kept)
        exact ⟨rfl, read, own⟩
      · rw [if_neg own] at kept
        cases kept
    · rintro ⟨_, read, own⟩
      exact ⟨a, read, congrArg Except.ok (if_pos own)⟩
  · simp [fresh]

/-- The models come from a fresh artifact, or the contract is compiled and they are written. -/
theorem loadModels_eq_ok_iff (place : c.artifactLocation? directory = some l) :
    c.loadModels f directory force = .ok (set, g) ↔
      (force = false ∧ ∃ a, c.freshArtifact? f l = .ok (some a) ∧ set = a.toModels ∧ g = f) ∨
      ((force = true ∨ c.freshArtifact? f l = .ok none) ∧
        c.rebuild f l = .ok (set, g)) := by
  rw [loadModels, place]
  cases force with
  | true => simp
  | false =>
    dsimp only
    rw [if_neg Bool.false_ne_true, bind_eq_ok]
    constructor
    · rintro ⟨kept, fresh, given⟩
      cases kept with
      | none => exact .inr ⟨.inr fresh, given⟩
      | some a =>
        obtain ⟨rfl, rfl⟩ := Prod.mk.inj (Except.ok.inj given)
        exact .inl ⟨rfl, a, fresh, rfl, rfl⟩
    · rintro (⟨_, a, fresh, rfl, rfl⟩ | ⟨forced | fresh, built⟩)
      · exact ⟨some a, fresh, rfl⟩
      · cases forced
      · exact ⟨none, fresh, built⟩

theorem loadModels_api (loaded : c.loadModels f directory force = .ok (set, g)) :
    set.api = c.api := by
  cases place : c.artifactLocation? directory with
  | none =>
    rw [loadModels, place] at loaded
    obtain ⟨compiled, ok, same⟩ := map_eq_ok.mp loaded
    obtain ⟨rfl, _⟩ := Prod.mk.inj same
    exact models_api ok
  | some l =>
    rcases (loadModels_eq_ok_iff place).mp loaded with ⟨_, a, fresh, rfl, _⟩ | ⟨_, built⟩
    · -- A kept artifact is used only when it is that of the contract.
      rw [a.api_toModels, (freshArtifact?_eq_some_iff.mp fresh).2.2]
    · exact models_api (rebuild_eq_ok_iff.mp built).1

end Contract

theorem Compiler.models_api {k : Compiler} {c : Contract} {files files' : Files}
    {set : ModelSet} (loaded : k.models c files = .ok (set, files')) : set.api = c.api := by
  rw [models] at loaded
  cases place : k.artifacts with
  | nowhere =>
    rw [place] at loaded
    obtain ⟨compiled, ok, same⟩ := map_eq_ok.mp loaded
    obtain ⟨rfl, _⟩ := Prod.mk.inj same
    exact Contract.models_api ok
  | besideDocument =>
    rw [place] at loaded
    exact Contract.loadModels_api loaded
  | directory path =>
    rw [place] at loaded
    exact Contract.loadModels_api loaded

/-! ### Bindings carry the name of their contract -/

/-- An operation is bound when everything it declares is supported and the policy has a handler
and a decorator for the names that it gives. -/
theorem Route.bind_eq_ok_iff {r : Route} {api : String} {d : Document} {t : HandlerTable}
    {policy : HandlerPolicy} {b : Binding} :
    r.bind api d t policy = .ok b ↔
      ∃ params bodyModel produces results handlerName handler decorator,
        r.operation.signature d.modelNames r.label = .ok (params, bodyModel) ∧
        Operation.checkRoute r.path r.label params = .ok () ∧
        r.operation.mediaType d r.label = .ok produces ∧
        r.operation.resultModels d.modelNames r.label = .ok results ∧
        r.operation.handlerName = some handlerName ∧
        policy.handler t handlerName r.label = .ok handler ∧
        r.operation.decorateServer.mapM (fun name => policy.decorator t name r.label) =
          .ok decorator ∧
        b = { api, method := r.method, route := d.base ++ r.path, params, bodyModel, handlerName,
              handler, decoratorName := r.operation.decorateServer, decorator, results,
              produces } := by
  constructor
  · intro bound
    obtain ⟨⟨params, bodyModel⟩, signature, bound⟩ := bind_eq_ok.mp bound
    obtain ⟨_, route, bound⟩ := bind_eq_ok.mp bound
    obtain ⟨produces, type, bound⟩ := bind_eq_ok.mp bound
    obtain ⟨results, models, bound⟩ := bind_eq_ok.mp bound
    cases named : r.operation.handlerName with
    | none =>
      rw [named] at bound
      cases bound
    | some name =>
      rw [named] at bound
      obtain ⟨handler, found, bound⟩ := bind_eq_ok.mp bound
      obtain ⟨decorator, decorated, bound⟩ := bind_eq_ok.mp bound
      exact ⟨params, bodyModel, produces, results, name, handler, decorator, signature, route, type,
        models, rfl, found, decorated, (Except.ok.inj bound).symm⟩
  · rintro ⟨params, bodyModel, produces, results, name, handler, decorator, signature, route, type,
      models, named, found, decorated, rfl⟩
    refine bind_eq_ok.mpr ⟨_, signature, bind_eq_ok.mpr ⟨_, route, bind_eq_ok.mpr ⟨_, type,
      bind_eq_ok.mpr ⟨_, models, ?_⟩⟩⟩⟩
    rw [named]
    exact bind_eq_ok.mpr ⟨_, found, bind_eq_ok.mpr ⟨_, decorated, rfl⟩⟩

theorem Route.bind_api {r : Route} {api : String} {d : Document} {t : HandlerTable}
    {policy : HandlerPolicy} {b : Binding} (bound : r.bind api d t policy = .ok b) :
    b.api = api := by
  obtain ⟨_, _, _, _, _, _, _, _, _, _, _, _, _, _, rfl⟩ := bind_eq_ok_iff.mp bound
  rfl

theorem compileEndpoints_api {api : String} {d : Document} {t : HandlerTable}
    {policy : HandlerPolicy} {bindings : List Binding}
    (compiled : compileEndpoints api d t policy = .ok bindings) :
    ∀ b ∈ bindings, b.api = api := by
  intro b member
  obtain ⟨r, _, bound⟩ := (mem_mapM_iff compiled).mp member
  exact r.bind_api bound

/-! ### Compiling into a registry -/

namespace Compiler

variable {k : Compiler} {c : Contract} {t : HandlerTable} {w : Workspace} {api : CompiledApi}

/-- Compiling leaves the registry as it was or registers one set. -/
theorem registry_compile (k : Compiler) (c : Contract) (t : HandlerTable) (w : Workspace) :
    (k.compile c t w).1.registry = w.registry ∨
      ∃ set, w.registry.register set = .ok (k.compile c t w).1.registry := by
  rw [compile]
  cases k.models c w.files with
  | error e => exact .inl rfl
  | ok loaded =>
    dsimp only
    cases registered : w.registry.register loaded.1 with
    | error e => exact .inl rfl
    | ok registry => exact .inr ⟨loaded.1, registered⟩

/-- An API is compiled when its models are there, the registry accepts them, and its operations
are bound. -/
theorem compile_eq_ok_iff {w' : Workspace} :
    k.compile c t w = (w', .ok api) ↔
      ∃ set files registry bindings, k.models c w.files = .ok (set, files) ∧
        w.registry.register set = .ok registry ∧
        compileEndpoints c.api c.document t k.policy = .ok bindings ∧
        w' = { files, registry } ∧
        api = { name := c.api, version := c.document.apiVersion, models := set, bindings } := by
  rw [compile]
  constructor
  · intro done
    cases loaded : k.models c w.files with
    | error e =>
      rw [loaded] at done
      cases (Prod.mk.inj done).2
    | ok result =>
      obtain ⟨set, files⟩ := result
      rw [loaded] at done
      dsimp only at done
      cases registered : w.registry.register set with
      | error e =>
        rw [registered] at done
        cases (Prod.mk.inj done).2
      | ok registry =>
        rw [registered] at done
        obtain ⟨after, done⟩ := Prod.mk.inj done
        obtain ⟨bindings, compiled, done⟩ := bind_eq_ok.mp done
        exact ⟨set, files, registry, bindings, rfl, registered, compiled, after.symm,
          (Except.ok.inj done).symm⟩
  · rintro ⟨set, files, registry, bindings, loaded, registered, compiled, rfl, rfl⟩
    rw [loaded]
    dsimp only
    rw [registered]
    dsimp only
    rw [compiled]
    rfl

/-- A compiled API is registered under the name that all its bindings have. -/
theorem compile_ok (done : (k.compile c t w).2 = .ok api) :
    (k.compile c t w).1.registry.get? api.name = some api.models ∧
      ∀ b ∈ api.bindings, b.api = api.name := by
  have ran : k.compile c t w = ((k.compile c t w).1, .ok api) := Prod.ext rfl done
  obtain ⟨set, files, registry, bindings, loaded, registered, compiled, after, rfl⟩ :=
    compile_eq_ok_iff.mp ran
  refine ⟨?_, compileEndpoints_api compiled⟩
  rw [after]
  exact (Registry.get?_register registered _).trans (if_pos (models_api loaded))

end Compiler

/-- An API was compiled into a registry. More may have been compiled or registered since. -/
inductive CompiledApi.CompiledInto (api : CompiledApi) : Registry → Prop
  | compiled {k : Compiler} {c : Contract} {t : HandlerTable} {w : Workspace}
      (done : (k.compile c t w).2 = .ok api) : CompiledInto api (k.compile c t w).1.registry
  | compiledOther {w : Workspace} (before : CompiledInto api w.registry) (k : Compiler)
      (c : Contract) (t : HandlerTable) : CompiledInto api (k.compile c t w).1.registry
  | registeredOther {r r' : Registry} {s : ModelSet} (before : CompiledInto api r)
      (registered : r.register s = .ok r') : CompiledInto api r'

namespace CompiledApi.CompiledInto

variable {api : CompiledApi} {r : Registry}

/-- The registry has the models of the API. -/
theorem get? (into : api.CompiledInto r) : r.get? api.name = some api.models := by
  induction into with
  | compiled done => exact (Compiler.compile_ok done).1
  | @compiledOther w before k c t ih =>
    rcases k.registry_compile c t w with same | ⟨set, registered⟩
    · rw [same]
      exact ih
    · exact Registry.get?_of_register registered ih
  | registeredOther before registered ih => exact Registry.get?_of_register registered ih

/-- The bindings of the API name it. -/
theorem api_of_mem (into : api.CompiledInto r) : ∀ b ∈ api.bindings, b.api = api.name := by
  induction into with
  | compiled done => exact (Compiler.compile_ok done).2
  | compiledOther before k c t ih => exact ih
  | registeredOther before registered ih => exact ih

end CompiledApi.CompiledInto

end ApiContract
