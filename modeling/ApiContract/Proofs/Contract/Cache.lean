import ApiContract.Proofs.Contract.Artifact

/-!
# Models over many calls

Calls for the models of contracts share a directory of artifacts, while documents are edited. An
artifact is found by the name of an API and taken by the time of a file. So what a call gives are
the models of its own document as long as the document of an API is always in one file, and is
called as it stands there.

## Main definitions

* `ModelCall` — a call for the models of a contract
* `History` — edits, loads and calls, one after the other
* `Cached` — what the artifacts in the files have to do with the calls

## Main results

* `History.cached` — every artifact was written by a call of its name
* `History.transparent` — every call gives the models of its document, and what it writes can be
  read back
-/

namespace ApiContract

/-! ### Contracts and their files -/

namespace Contract

variable {c d : Contract} {f g : Files} {path other : Location} {text api : String} {written : Int}

theorem parse_api (parsed : parse api text = .ok c) : c.api = api := by
  rw [parse] at parsed
  split at parsed
  · cases parsed
  · split at parsed
    · obtain rfl := Except.ok.inj parsed
      rfl
    · cases parsed

/-- A contract that is loaded is the text of a file, with its path and its time. -/
theorem loadNamed_eq_ok_iff : loadNamed f api path = .ok c ↔
    ∃ text written parsed, f.file? path = some (text, written) ∧ parse api text = .ok parsed ∧
      c = { parsed with file := some (path, written) } := by
  rw [Files.loadNamed_eq]
  cases f.file? path with
  | none => exact ⟨fun loaded => (nomatch loaded), fun ⟨_, _, _, found, _⟩ => (nomatch found)⟩
  | some file =>
    constructor
    · intro loaded
      obtain ⟨parsed, read, loaded⟩ := bind_eq_ok.mp loaded
      exact ⟨file.1, file.2, parsed, rfl, read, (Except.ok.inj loaded).symm⟩
    · rintro ⟨text, written, parsed, found, read, rfl⟩
      obtain rfl := Option.some.inj found
      exact bind_eq_ok.mpr ⟨parsed, read, rfl⟩

/-- Contracts of one name that are loaded from one text have the same models. -/
theorem models_of_text (left : loadNamed f api path = .ok c) (right : loadNamed g api other = .ok d)
    (same : (f.file? path).map Prod.fst = (g.file? other).map Prod.fst) : c.models = d.models := by
  obtain ⟨text, _, parsed, found, read, rfl⟩ := loadNamed_eq_ok_iff.mp left
  obtain ⟨text', _, parsed', found', read', rfl⟩ := loadNamed_eq_ok_iff.mp right
  rw [found, found'] at same
  obtain rfl : text = text' := Option.some.inj same
  obtain rfl : parsed = parsed' := Except.ok.inj (read.symm.trans read')
  rfl

end Contract

/-! ### Calls -/

/-- Where the artifact of an API is, in a directory at a place. -/
def artifactPlace (directory : List OsString) (api : String) : List OsString :=
  directory ++ [OsString.ofText (api ++ Contract.artifactSuffix)]

theorem artifactPlace_inj {directory : List OsString} {api other : String}
    (same : artifactPlace directory api = artifactPlace directory other) : api = other := by
  have last := OsString.ofText_injective (List.singleton_inj.mp (List.append_cancel_left same))
  have chars := congrArg String.toList last
  rw [String.toList_append, String.toList_append] at chars
  exact String.toList_injective (List.append_cancel_right chars)

/-- A call for the models of a contract: where its artifact is kept and whether it is compiled
in any case, the files that the call finds, and the models and the files that come of it. -/
structure ModelCall where
  contract : Contract
  directory : Option String
  force : Bool
  before : Files
  models : ModelSet
  after : Files

namespace ModelCall

variable {k : ModelCall} {place : List OsString}

/-- The path of the artifact. -/
def location? (k : ModelCall) : Option Location := k.contract.artifactLocation? k.directory

/-- The call gives the models, and the artifact is in the directory at a place, which may be made
by the call. -/
structure Runs (k : ModelCall) (place : List OsString) : Prop where
  result : k.contract.loadModels k.before k.directory k.force = .ok (k.models, k.after)
  shared : ∃ path, k.location? = some path ∧
    k.after.resolve? path = some (artifactPlace place k.contract.api)

/-- The contract is the document as it stands in its file when the call is made. -/
def Current (k : ModelCall) : Prop :=
  ∃ path, Contract.loadNamed k.before k.contract.api path = .ok k.contract

/-- The place of the document. -/
def documentPlace? (k : ModelCall) : Option (List OsString) :=
  k.contract.file.bind fun file => k.before.resolve? file.1

theorem Current.exists_document (current : k.Current) : ∃ path names text written,
    Contract.loadNamed k.before k.contract.api path = .ok k.contract ∧
      k.contract.file = some (path, written) ∧ k.before.file? path = some (text, written) ∧
      k.before.resolve? path = some names ∧ k.before.at? names = some (text, written) := by
  obtain ⟨path, loaded⟩ := current
  obtain ⟨text, written, _, found, _, shape⟩ := Contract.loadNamed_eq_ok_iff.mp loaded
  obtain ⟨names, leads, _, here⟩ := Files.file?_eq_some_iff.mp found
  exact ⟨path, names, text, written, loaded, by rw [shape], found, leads, here⟩

/-- The call compiles the document: it has to, or finds no artifact that it may use. -/
def Recompiles (k : ModelCall) : Prop :=
  k.force = true ∨ ∃ path, k.location? = some path ∧
    k.contract.freshArtifact? k.before path = .ok none

/-- The artifact that the call leaves is read back as the models that it gives. -/
def ReadsBack (k : ModelCall) : Prop :=
  ∃ path a, k.location? = some path ∧ Artifact.read k.after path = .ok a ∧ a.toModels = k.models

/-- The artifact that the call writes, if it does. -/
def artifact (k : ModelCall) : Artifact :=
  .ofModels k.models k.contract.source? (Instant.ofUnix k.before.clock)

/-- The call has compiled the document and written the artifact. -/
structure Writes (k : ModelCall) (place : List OsString) : Prop where
  models : k.contract.models = .ok k.models
  puts : k.before.Puts (artifactPlace place k.contract.api) k.artifact.toJson.pretty k.after

theorem Writes.toModels (writes : k.Writes place) : k.artifact.toModels = k.models :=
  Artifact.toModels_ofModels (compileModels_names_nodup writes.models) _ _

/-- A call uses a fresh artifact and leaves the files as they are, or it writes one. -/
theorem Runs.cases (runs : k.Runs place) {path : Location} (kept : k.location? = some path) :
    (∃ a, k.contract.freshArtifact? k.before path = .ok (some a) ∧ k.models = a.toModels ∧
      k.after = k.before ∧ ¬ k.Recompiles) ∨
      k.Writes place ∧ k.after.file? path = some (k.artifact.toJson.pretty, k.before.clock) := by
  obtain ⟨_, same, resolved⟩ := runs.shared
  obtain rfl := Option.some.inj (kept.symm.trans same)
  rcases (Contract.loadModels_eq_ok_iff kept).mp runs.result with
    ⟨free, a, fresh, models, unchanged⟩ | ⟨_, built⟩
  · refine .inl ⟨a, fresh, models, unchanged, ?_⟩
    rintro (forced | ⟨_, same, stale⟩)
    · rw [free] at forced
      cases forced
    · obtain rfl := Option.some.inj (kept.symm.trans same)
      cases fresh.symm.trans stale
  · obtain ⟨compiled, _, write⟩ := Contract.rebuild_eq_ok_iff.mp built
    obtain ⟨names, leads, puts, found⟩ := Files.puts_of_artifact write
    obtain rfl := Option.some.inj (leads.symm.trans resolved)
    exact .inr ⟨⟨compiled, puts⟩, found⟩

/-- A call that compiles the document writes what is compiled. -/
theorem Runs.writes (runs : k.Runs place) (recompiles : k.Recompiles) {path : Location}
    (kept : k.location? = some path) :
    k.Writes place ∧ k.after.file? path = some (k.artifact.toJson.pretty, k.before.clock) :=
  (runs.cases kept).resolve_left fun ⟨_, _, _, _, reuses⟩ => reuses recompiles

/-- What a call writes is read back as the models that it gives, as long as their types nest no
deeper than a text may. -/
theorem Runs.readsBack_iff (runs : k.Runs place) (recompiles : k.Recompiles) :
    k.ReadsBack ↔ k.models.Storable := by
  obtain ⟨path, kept, _⟩ := runs.shared
  obtain ⟨writes, found⟩ := runs.writes recompiles kept
  have read : ∀ a, Artifact.read k.after path = .ok a ↔ a = k.artifact ∧ k.models.Storable :=
    fun a => Artifact.read_eq_ok_iff (Instant.inRange_ofUnix _) found
  constructor
  · rintro ⟨_, a, same, readable, _⟩
    obtain rfl := Option.some.inj (kept.symm.trans same)
    exact ((read a).mp readable).2
  · exact fun storable => ⟨path, k.artifact, kept, (read _).mpr ⟨rfl, storable⟩, writes.toModels⟩

/-- Where no artifact is, the document is compiled. -/
theorem runs_of_missing {c : Contract} {f g : Files} {directory : Option String} {set : ModelSet}
    {path : Location} (kept : c.artifactLocation? directory = some path)
    (leads : g.resolve? path = some (artifactPlace place c.api)) (missing : f.written? path = none)
    (compiled : c.models = .ok set) (named : c.file.isSome → c.source?.isSome)
    (write : (Artifact.ofModels set c.source? (Instant.ofUnix f.clock)).write f path =
      .ok g) :
    Runs ⟨c, directory, false, f, set, g⟩ place ∧ Recompiles ⟨c, directory, false, f, set, g⟩ := by
  have stale : c.freshArtifact? f path = .ok none := by
    rw [Contract.freshArtifact?, Contract.isFresh, missing]
    rfl
  have built : c.rebuild f path = .ok (set, g) :=
    Contract.rebuild_eq_ok_iff.mpr ⟨compiled, named, write⟩
  exact ⟨⟨(Contract.loadModels_eq_ok_iff kept).mpr (.inr ⟨.inr stale, built⟩), path, kept, leads⟩,
    .inr ⟨path, kept, stale⟩⟩

/-- What a call has written is given for every contract of the same name that is no newer,
whatever document it is of. -/
theorem Runs.again (runs : k.Runs place) (recompiles : k.Recompiles) (storable : k.models.Storable)
    {d : Contract} (own : d.api = k.contract.api)
    (same : d.artifactLocation? k.directory = k.location?) (old : d.isStale k.before.clock = false) :
    Runs ⟨d, k.directory, false, k.after, k.models, k.after⟩ place := by
  obtain ⟨path, kept, leads⟩ := runs.shared
  obtain ⟨writes, found⟩ := runs.writes recompiles kept
  have named : k.artifact.api = d.api := (Contract.models_api writes.models).trans own.symm
  have isFresh : d.isFresh k.after path := by
    rw [Contract.isFresh, Files.written?_of_file? found, Option.any_some, old]
    rfl
  have read : Artifact.read k.after path = .ok k.artifact :=
    (Artifact.read_eq_ok_iff (Instant.inRange_ofUnix _) found).mpr ⟨rfl, storable⟩
  have fresh := Contract.freshArtifact?_eq_some_iff.mpr ⟨isFresh, read, named⟩
  exact ⟨(Contract.loadModels_eq_ok_iff (same.trans kept)).mpr
    (.inl ⟨rfl, _, fresh, writes.toModels.symm, rfl⟩), path, same.trans kept, own ▸ leads⟩

end ModelCall

/-! ### Histories -/

/-- Files after any number of edits, with the contracts that were loaded and the calls that were
made on the way. Nothing but the calls writes artifacts to the directory at the place, and no
document is among them. -/
inductive History (place : List OsString) : Files → List Contract → List ModelCall → Prop
  | start (f : Files) (past : f.Past) (empty : ∀ api, f.at? (artifactPlace place api) = none) :
      History place f [] []
  | edited {f g : Files} {contracts : List Contract} {calls : List ModelCall}
      {path : Location} {text : String} (before : History place f contracts calls)
      (write : f.write? path text = some g)
      (apart : ∀ api, f.resolve? path ≠ some (artifactPlace place api)) :
      History place g contracts calls
  | loaded {f : Files} {contracts : List Contract} {calls : List ModelCall} {api : String} {path : Location}
      {c : Contract} (before : History place f contracts calls)
      (load : Contract.loadNamed f api path = .ok c)
      (apart : ∀ api, f.resolve? path ≠ some (artifactPlace place api)) :
      History place f (c :: contracts) calls
  | called {k : ModelCall} {contracts : List Contract} {calls : List ModelCall}
      (before : History place k.before contracts calls) (known : k.contract ∈ contracts)
      (runs : k.Runs place) : History place k.after contracts (k :: calls)

/-- Documents are at places of their own, and every artifact in the directory is that of a call
for an API of its name, as it was written then. -/
structure Cached (place : List OsString) (f : Files) (contracts : List Contract)
    (calls : List ModelCall) : Prop where
  past : f.Past
  documents (c : Contract) : c ∈ contracts → ∃ path written names,
    c.file = some (path, written) ∧ f.resolve? path = some names ∧
      ∀ api, names ≠ artifactPlace place api
  artifacts (api : String) (file : String × Int) : f.at? (artifactPlace place api) = some file →
    ∃ k ∈ calls, k.contract.api = api ∧ k.Writes place ∧ k.after.Later f ∧
      file = (k.artifact.toJson.pretty, k.before.clock)

namespace Cached

variable {place names : List OsString} {f g : Files} {contracts : List Contract}
  {calls : List ModelCall} {text : String}

theorem edited (cached : Cached place f contracts calls) (puts : f.Puts names text g)
    (apart : ∀ api, names ≠ artifactPlace place api) : Cached place g contracts calls where
  past := cached.past.put puts
  documents c member := by
    obtain ⟨path, written, names, file, leads, own⟩ := cached.documents c member
    exact ⟨path, written, names, file, ((Files.Later.refl f).put puts).resolve? leads, own⟩
  artifacts api file found := by
    rw [puts.elsewhere _ (apart api).symm] at found
    obtain ⟨k, member, same, writes, later, rfl⟩ := cached.artifacts api file found
    exact ⟨k, member, same, writes, later.put puts, rfl⟩

theorem called {k : ModelCall} (cached : Cached place k.before contracts calls)
    (runs : k.Runs place) : Cached place k.after contracts (k :: calls) := by
  obtain ⟨path, kept, _⟩ := runs.shared
  rcases runs.cases kept with ⟨_, _, _, unchanged, _⟩ | ⟨writes, _⟩
  · rw [unchanged]
    refine ⟨cached.past, cached.documents, fun api file found => ?_⟩
    obtain ⟨l, member, written⟩ := cached.artifacts api file found
    exact ⟨l, List.mem_cons_of_mem _ member, written⟩
  · have puts := writes.puts
    refine ⟨cached.past.put puts, fun c member => ?_, fun api file found => ?_⟩
    · obtain ⟨path, written, names, file, leads, own⟩ := cached.documents c member
      exact ⟨path, written, names, file, ((Files.Later.refl _).put puts).resolve? leads, own⟩
    · -- The artifact of the call's name is the one just written; the others are as they were.
      by_cases own : api = k.contract.api
      · obtain rfl := own
        rw [puts.here] at found
        obtain rfl := Option.some.inj found
        exact ⟨k, List.mem_cons_self, rfl, writes, .refl _, rfl⟩
      · rw [puts.elsewhere _ fun same => own (artifactPlace_inj same)] at found
        obtain ⟨l, member, same, wrote, later, rfl⟩ := cached.artifacts api file found
        exact ⟨l, List.mem_cons_of_mem _ member, same, wrote, later.put puts, rfl⟩

/-- An artifact that a current contract may use is that of its own document: had the document
been edited since the artifact was written, it would be newer. -/
theorem models_of_fresh {k : ModelCall} {path : Location} {a : Artifact}
    (cached : Cached place k.before contracts calls) (known : k.contract ∈ contracts)
    (shared : k.before.resolve? path = some (artifactPlace place k.contract.api))
    (current : k.Current) (others : ∀ l ∈ calls, l.Current)
    (oneFile : ∀ l ∈ calls, k.contract.api = l.contract.api →
      k.documentPlace? = l.documentPlace?)
    (fresh : k.contract.freshArtifact? k.before path = .ok (some a)) :
    k.contract.models = .ok a.toModels := by
  obtain ⟨isFresh, read, own⟩ := Contract.freshArtifact?_eq_some_iff.mp fresh
  -- The artifact is in a file, which some call has written.
  obtain ⟨⟨text, built⟩, found⟩ := Artifact.exists_file_of_read read
  obtain ⟨_, leads, _, there⟩ := Files.file?_eq_some_iff.mp found
  obtain rfl := Option.some.inj (leads.symm.trans shared)
  obtain ⟨l, member, same, writes, later, file⟩ := cached.artifacts _ _ there
  obtain ⟨rfl, rfl⟩ := Prod.mk.inj file
  obtain ⟨rfl, _⟩ := (Artifact.read_eq_ok_iff (Instant.inRange_ofUnix _) found).mp read
  rw [writes.toModels, ← writes.models]
  -- The document has not been written since that call was made.
  obtain ⟨document, names, text, written, loaded, file, holds, leads, here⟩ :=
    current.exists_document
  obtain ⟨document', names', text', written', loaded', file', holds', leads', here'⟩ :=
    (others l member).exists_document
  obtain rfl : names = names' := by
    have one := oneFile l member same.symm
    rw [ModelCall.documentPlace?, ModelCall.documentPlace?, file, file'] at one
    exact Option.some.inj (leads.symm.trans (one.trans leads'))
  have apart : ∀ api, names ≠ artifactPlace place api := by
    obtain ⟨_, _, _, at', leads', apart⟩ := cached.documents _ known
    obtain ⟨rfl, _⟩ := Prod.mk.inj (Option.some.inj (file.symm.trans at'))
    obtain rfl := Option.some.inj (leads.symm.trans leads')
    exact apart
  have notNewer : ¬ l.before.clock < written := by
    rw [Contract.isFresh, Files.written?_of_file? found, Option.any_some, Contract.isStale, file]
      at isFresh
    simpa using isFresh
  have before : l.before.at? names = some (text, written) := by
    rw [← writes.puts.elsewhere names (apart _)]
    refine (later.files names _ here).resolve_right fun since => notNewer ?_
    rw [writes.puts.clock] at since
    exact since
  refine Contract.models_of_text loaded (same ▸ loaded') ?_
  obtain ⟨rfl, _⟩ := Prod.mk.inj (Option.some.inj (before.symm.trans here'))
  rw [holds, holds']
  rfl

end Cached

namespace History

variable {place : List OsString} {f : Files} {contracts : List Contract} {calls : List ModelCall}
  {k : ModelCall}

/-- Every step of a history keeps what the artifacts have to do with the calls. -/
theorem cached (history : History place f contracts calls) : Cached place f contracts calls := by
  induction history with
  | start f past empty =>
    refine ⟨past, fun c member => (by cases member), fun api file found => ?_⟩
    rw [empty] at found
    cases found
  | edited _ write apart ih =>
    obtain ⟨names, leads, _, puts⟩ := Files.puts_of_write? write
    exact ih.edited puts fun api same => apart api (same ▸ leads)
  | @loaded f _ _ _ path c _ load apart ih =>
    refine ⟨ih.past, fun d member => ?_, ih.artifacts⟩
    rcases List.mem_cons.mp member with rfl | old
    · obtain ⟨_, written, _, found, _, rfl⟩ := Contract.loadNamed_eq_ok_iff.mp load
      obtain ⟨names, leads, _⟩ := Files.file?_eq_some_iff.mp found
      exact ⟨path, written, names, rfl, leads, fun api same => apart api (same ▸ leads)⟩
    · exact ih.documents d old
  | called _ _ runs ih => exact ih.called runs

/-- Each call of a history was made in a history of its own. -/
theorem exists_of_mem (history : History place f contracts calls) (member : k ∈ calls) :
    ∃ earlier before, History place k.before earlier before ∧ k.contract ∈ earlier ∧
      k.Runs place ∧ ∀ l ∈ before, l ∈ calls := by
  induction history with
  | start => cases member
  | edited _ _ _ ih => exact ih member
  | loaded _ _ _ ih => exact ih member
  | @called l contracts calls before known runs ih =>
    rcases List.mem_cons.mp member with rfl | old
    · exact ⟨contracts, calls, before, known, runs, fun l => List.mem_cons_of_mem _⟩
    · obtain ⟨earlier, before, history, known, runs, sub⟩ := ih old
      exact ⟨earlier, before, history, known, runs, fun l member =>
        List.mem_cons_of_mem _ (sub l member)⟩

/-- Every call gives the models of its own document, in their order, when each contract is
called as it stands in its file and the document of an API is always the same file. A call that
compiles leaves an artifact that is read back as these models, as long as their types nest no
deeper than a text may. -/
theorem transparent (history : History place f contracts calls)
    (current : ∀ k ∈ calls, k.Current)
    (oneFile : ∀ k ∈ calls, ∀ l ∈ calls, k.contract.api = l.contract.api →
      k.documentPlace? = l.documentPlace?) :
    ∀ k ∈ calls, k.contract.models = .ok k.models ∧
      (k.Recompiles → (k.ReadsBack ↔ k.models.Storable)) := by
  intro k member
  obtain ⟨earlier, before, history, known, runs, sub⟩ := history.exists_of_mem member
  refine ⟨?_, runs.readsBack_iff⟩
  obtain ⟨path, kept, shared⟩ := runs.shared
  rcases runs.cases kept with ⟨a, fresh, models, unchanged, _⟩ | ⟨writes, _⟩
  · rw [models]
    rw [unchanged] at shared
    exact history.cached.models_of_fresh known shared (current k member)
      (fun l earlier => current l (sub l earlier))
      (fun l earlier => oneFile k member l (sub l earlier)) fresh
  · exact writes.models

end History

/-! ### Two documents of one name -/

/-- A document with one model, which is without fields. -/
def itemsDocument (model : String) : String :=
  "swagger: '2.0'\ndefinitions:\n  " ++ model ++ ":\n"

/-- The models of the document. -/
def itemsModels (model : String) : ModelSet := ⟨"items", [{ name := model, api := "items" }]⟩

/-- Documents in their directories, before a time. -/
def itemsFiles (documents : List (OsString × Entry)) (clock : Int) : Files :=
  { root := .directory documents, clock }

/-- The same with an artifact, which is written at that time. -/
def itemsStored (documents : List (OsString × Entry)) (clock : Int) (text : String) : Files :=
  let stored : List (OsString × Entry) := [("items.models.json", .file text clock)]
  itemsFiles (documents ++ [(OsString.ofText "out", .directory stored)]) (clock + 1)

theorem exists_items (model : String) (known : model ∈ ["Book", "Toy"]) :
    ∃ c, Contract.parse "items" (itemsDocument model) = .ok c ∧ c.api = "items" ∧
      c.models = .ok (itemsModels model) := by
  have all : ∀ model ∈ ["Book", "Toy"],
      ((Contract.parse "items" (itemsDocument model)).toOption.bind fun c => c.models.toOption) =
        some (itemsModels model) := by decide +kernel
  obtain ⟨c, parsed, models⟩ := Option.bind_eq_some_iff.mp (all model known)
  have parsed := toOption_eq_some.mp parsed
  exact ⟨c, parsed, Contract.parse_api parsed, toOption_eq_some.mp models⟩

/-- A document in the working directory, written at a time. -/
def soleDocument (model : String) (written : Int) : List (OsString × Entry) :=
  [("items.yaml", .file (itemsDocument model) written)]

/-- Two documents, each in a directory of its own. -/
def twoDocuments : List (OsString × Entry) :=
  [("a", .directory [("items.yaml", .file (itemsDocument "Book") 0)]),
    ("b", .directory [("items.yaml", .file (itemsDocument "Toy") 1)])]

theorem storable_items (model : String) : (itemsModels model).Storable := by
  intro m member f field
  obtain rfl := List.mem_singleton.mp member
  cases field

/-- A call for the models of one of the documents, where there is no artifact. -/
def itemsCall (c : Contract) (model : String) (documents : List (OsString × Entry)) (clock : Int) :
    ModelCall :=
  ⟨c, some "out", false, itemsFiles documents clock, itemsModels model,
    itemsStored documents clock (Artifact.ofModels (itemsModels model) c.source?
      (Instant.ofUnix clock)).toJson.pretty⟩

/-- The second call, for a contract of the same name. -/
def itemsAgain (k : ModelCall) (d : Contract) : ModelCall :=
  ⟨d, k.directory, false, k.after, k.models, k.after⟩

theorem itemsCall_runs (c : Contract) (documents : List (OsString × Entry)) (clock : Int)
    {model : String} (own : c.api = "items") (compiled : c.models = .ok (itemsModels model))
    (named : c.file.isSome → c.source?.isSome)
    (missing : (itemsFiles documents clock).written? "out/items.models.json" = none)
    (write : ∀ a : Artifact, a.write (itemsFiles documents clock) "out/items.models.json" =
      .ok (itemsStored documents clock a.toJson.pretty)) :
    (itemsCall c model documents clock).Runs ["out"] ∧
      (itemsCall c model documents clock).Recompiles := by
  have kept : c.artifactLocation? (some "out") = some ("out/items.models.json" : Location) := by
    rw [Contract.artifactLocation?, own]
    rfl
  have leads (text : String) : (itemsStored documents clock text).resolve? "out/items.models.json" =
      some (artifactPlace ["out"] c.api) := by
    rw [own]
    rfl
  exact ModelCall.runs_of_missing kept (leads _) missing compiled named (write _)

/-- After a call for one contract there may be one for another contract of the name. -/
theorem history_items {c d : Contract} {model : String} {documents : List (OsString × Entry)}
    {clock : Int} {contracts : List Contract}
    (before : History ["out"] (itemsFiles documents clock) contracts [])
    (known : c ∈ contracts) (known' : d ∈ contracts)
    (own : c.api = "items") (own' : d.api = "items")
    (runs : (itemsCall c model documents clock).Runs ["out"])
    (recompiles : (itemsCall c model documents clock).Recompiles)
    (old : d.isStale clock = false) :
    History ["out"] (itemsCall c model documents clock).after contracts
      [itemsAgain (itemsCall c model documents clock) d, itemsCall c model documents clock] := by
  have first : History ["out"] (itemsCall c model documents clock).after contracts
      [itemsCall c model documents clock] := .called before known runs
  have same : d.api = c.api := own'.trans own.symm
  have kept : d.artifactLocation? (some "out") = (itemsCall c model documents clock).location? :=
    congrArg (fun api => some (Location.mk (Path.join "out" (api ++ Contract.artifactSuffix)) [])) same
  exact .called (k := itemsAgain (itemsCall c model documents clock) d) first known'
    (runs.again recompiles (storable_items model) same kept old)

theorem start_items {documents : List (OsString × Entry)} {clock : Int}
    (past : Entry.latestIn documents < clock)
    (free : Members.lookup (OsString.ofText "out") documents = none) :
    History ["out"] (itemsFiles documents clock) [] [] := by
  refine .start _ (Files.past_of_latest past) fun api => ?_
  show ((Members.lookup (OsString.ofText "out") documents).bind _).bind _ = _
  rw [free]
  rfl

/-- The contract of a document, from a file. -/
def itemsContract (p : Contract) (path : String) (written : Int) : Contract :=
  { p with file := some (path, written) }

theorem loaded_items (f : Files) (path : String) {p : Contract} {model : String} {written : Int}
    (found : f.file? path = some (itemsDocument model, written))
    (parsed : Contract.parse "items" (itemsDocument model) = .ok p) :
    Contract.loadNamed f p.api path = .ok (itemsContract p path written) :=
  Contract.loadNamed_eq_ok_iff.mpr ⟨_, _, p, found, Contract.parse_api parsed ▸ parsed, rfl⟩

theorem apart_items {f : Files} {path : Location} {first : OsString}
    {rest : List OsString}
    (leads : f.resolve? path = some (first :: rest)) (other : first ≠ "out") (api : String) :
    f.resolve? path ≠ some (artifactPlace ["out"] api) := by
  rw [leads]
  exact fun same => other (List.cons.inj (Option.some.inj same)).1

theorem oneFile_items {i j k l : ModelCall} (left : i ∈ [l, k]) (right : j ∈ [l, k])
    (same : l.documentPlace? = k.documentPlace?) : i.documentPlace? = j.documentPlace? := by
  simp only [List.mem_cons, List.not_mem_nil, or_false] at left right
  rcases left with rfl | rfl <;> rcases right with rfl | rfl <;> simp [same]

/-- Of two documents of one name, one gets the models of the other, though each is called as it
stands. A document that was edited gets the models of what it was before, when that is called
after the edit. -/
theorem History.mistaken :
    (∃ f contracts calls, History ["out"] f contracts calls ∧ (∀ k ∈ calls, k.Current) ∧
      ∃ k ∈ calls, ∃ set, k.contract.models = .ok set ∧ k.models ≠ set) ∧
    (∃ f contracts calls, History ["out"] f contracts calls ∧
      (∀ k ∈ calls, ∀ l ∈ calls, k.documentPlace? = l.documentPlace?) ∧
      ∃ k ∈ calls, ∃ set, k.contract.models = .ok set ∧ k.models ≠ set) := by
  obtain ⟨p, parsed, own, compiled⟩ := exists_items "Book" (by decide)
  obtain ⟨q, parsed', own', compiled'⟩ := exists_items "Toy" (by decide)
  have differ : itemsModels "Book" ≠ itemsModels "Toy" := by decide
  constructor
  · -- The call for the second document finds what the call for the first one has written.
    have load := loaded_items (itemsFiles twoDocuments 2) "a/items.yaml" rfl parsed
    have load' := loaded_items (itemsFiles twoDocuments 2) "b/items.yaml" rfl parsed'
    have one : History ["out"] (itemsFiles twoDocuments 2) _ [] :=
      .loaded (start_items (by decide) rfl) load (apart_items rfl (by decide))
    have both := one.loaded load' (apart_items rfl (by decide))
    obtain ⟨runs, recompiles⟩ := itemsCall_runs (itemsContract p "a/items.yaml" 0)
      twoDocuments 2 own compiled (fun _ => rfl) rfl fun _ => rfl
    have history := history_items both (List.mem_cons_of_mem _ List.mem_cons_self)
      List.mem_cons_self own own' runs recompiles rfl
    refine ⟨_, _, _, history, ?_, _, List.mem_cons_self, _, compiled', differ⟩
    simp only [List.forall_mem_cons]
    refine ⟨⟨"b/items.yaml", ?_⟩, ⟨"a/items.yaml", load⟩, List.forall_mem_nil _⟩
    exact loaded_items _ _ (p := q) rfl parsed'
  · -- The first contract is called after the edit, so that its artifact is newer than the edit.
    have load := loaded_items (itemsFiles (soleDocument "Book" 0) 1) "items.yaml" rfl parsed
    have load' := loaded_items (itemsFiles (soleDocument "Toy" 1) 2) "items.yaml" rfl parsed'
    have one : History ["out"] (itemsFiles (soleDocument "Book" 0) 1) _ [] :=
      .loaded (start_items (by decide) rfl) load (apart_items rfl (by decide))
    have edit : (itemsFiles (soleDocument "Book" 0) 1).write? "items.yaml" (itemsDocument "Toy") =
        some (itemsFiles (soleDocument "Toy" 1) 2) := rfl
    have edited := one.edited edit (apart_items rfl (by decide))
    have both := edited.loaded load' (apart_items rfl (by decide))
    obtain ⟨runs, recompiles⟩ := itemsCall_runs (itemsContract p "items.yaml" 0)
      (soleDocument "Toy" 1) 2 own compiled (fun _ => rfl) rfl fun _ => rfl
    have history := history_items both (List.mem_cons_of_mem _ List.mem_cons_self)
      List.mem_cons_self own own' runs recompiles rfl
    exact ⟨_, _, _, history, fun i left j right => oneFile_items left right rfl, _,
      List.mem_cons_self, _, compiled', differ⟩

/-- A document that is called twice is compiled once, and its artifact is read back. -/
theorem History.transparent_twice : ∃ f contracts k l, History ["out"] f contracts [l, k] ∧
    k.Recompiles ∧ k.ReadsBack ∧ l.force = false ∧ l.after = l.before ∧
    l.contract.models = .ok l.models := by
  obtain ⟨p, parsed, own, compiled⟩ := exists_items "Book" (by decide)
  have load := loaded_items (itemsFiles (soleDocument "Book" 0) 1) "items.yaml" rfl parsed
  have one : History ["out"] (itemsFiles (soleDocument "Book" 0) 1) _ [] :=
    .loaded (start_items (by decide) rfl) load (apart_items rfl (by decide))
  obtain ⟨runs, recompiles⟩ := itemsCall_runs (itemsContract p "items.yaml" 0)
    (soleDocument "Book" 0) 1 own compiled (fun _ => rfl) rfl fun _ => rfl
  have history := history_items one List.mem_cons_self List.mem_cons_self own own runs recompiles
    rfl
  have transparent := history.transparent
    (by
      simp only [List.forall_mem_cons]
      refine ⟨⟨"items.yaml", ?_⟩, ⟨"items.yaml", load⟩, List.forall_mem_nil _⟩
      exact loaded_items _ _ (p := p) rfl parsed)
    (fun i left j right _ => oneFile_items left right rfl)
  have first := (transparent _ (List.mem_cons_of_mem _ List.mem_cons_self)).2 recompiles
  exact ⟨_, _, _, _, history, recompiles, first.mpr (storable_items _), rfl, rfl,
    (transparent _ List.mem_cons_self).1⟩

end ApiContract
