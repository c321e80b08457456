import ApiContract.Contract.Compile
import ApiContract.Contract.Discovery
import ApiContract.Proofs.Fallible
import ApiContract.Proofs.Location
import ApiContract.Proofs.Members

/-!
# Files that stay as they are

Writing a file changes what is found at one place, and making a directory changes no file. Paths
lead where they did, because directories stay directories. Documents and artifacts have different
extensions, so that an artifact which is written never takes the place of a document.

## Main definitions

* `Entry.file?`, `Files.at?`, `Files.file?` — the text of a file, and when it was written
* `Files.Grown` — directories have been made, and nothing else has changed
* `Files.Keeps` — directories stay directories, and documents stay as they are

## Main results

* `Entry.find?_alter`, `Entry.file?_find?_alter`, `Entry.isDirectory_find?_alter` — what is found
  after a change
* `Files.resolve?_of_directories` — paths lead where they did
* `Files.grown_of_makeDirectories` — directories that are made leave the files as they are
* `Files.file?_write`, `Files.Keeps.write` — the files after another is written
* `apiName?_eq_some_iff` — the name of a document
* `Files.isSome_resolve?_of_documents` — the documents that are discovered have a place
-/

namespace ApiContract

/-! ### Entries -/

namespace Entry

/-- The text of a file, and when it was written. -/
def file? : Entry → Option (String × Int)
  | .file text written => some (text, written)
  | .directory _ => none

/-- A change that leaves what is below an entry, and takes no directory away. -/
structure Shallow (change : Option Entry → Option Entry) : Prop where
  below (e? : Option Entry) (e : Entry) : change e? = some e → ∀ first more,
    e.find? (first :: more) = e?.bind (find? (first :: more))
  directory (e? : Option Entry) (e : Entry) : change e? = some e → e?.any isDirectory →
    e.isDirectory

variable {change : Option Entry → Option Entry} {e? : Option Entry} {e e' : Entry} {text : String}
  {written : Int} {name : OsString} {names other rest : List OsString}

theorem shallow_overwrite (text : String) (written : Int) : Shallow (overwrite text written) where
  below e? e changed first more := by
    rcases e? with _ | ⟨_, _⟩ | entries
    · obtain rfl := Option.some.inj changed
      rfl
    · obtain rfl := Option.some.inj changed
      rfl
    · cases changed
  directory e? e changed before := by
    rcases e? with _ | ⟨_, _⟩ | entries
    · cases before
    · cases before
    · cases changed

theorem shallow_makeDirectory : Shallow makeDirectory where
  below e? e changed first more := by
    rcases e? with _ | ⟨_, _⟩ | entries
    · obtain rfl := Option.some.inj changed
      rfl
    · cases changed
    · obtain rfl := Option.some.inj changed
      rfl
  directory e? e changed before := by
    rcases e? with _ | ⟨_, _⟩ | entries
    · cases before
    · cases before
    · obtain rfl := Option.some.inj changed
      rfl

/-- A change below a name is made in a directory, or in one that is made there. -/
theorem exists_of_alter (altered : alter? change (name :: rest) e? = some e') :
    ∃ entries new, alter? change rest (Members.lookup name entries) = some new ∧
      e' = .directory (Members.insert name new entries) ∧ e?.bind file? = none ∧
      ∀ first more, e?.bind (find? (first :: more)) =
        (Members.lookup first entries).bind (find? more) := by
  rw [alter?] at altered
  rcases e? with _ | ⟨_, _⟩ | entries
  · obtain ⟨new, below, rfl⟩ := Option.map_eq_some_iff.mp altered
    exact ⟨[], new, below, rfl, rfl, fun _ _ => rfl⟩
  · cases altered
  · obtain ⟨new, below, rfl⟩ := Option.map_eq_some_iff.mp altered
    exact ⟨entries, new, below, rfl, rfl, fun _ _ => rfl⟩

theorem bind_find?_nil (e? : Option Entry) : e?.bind (find? []) = e? := by
  cases e? <;> rfl

/-- What is found after a change where it was made is what the change gives. -/
theorem find?_alter (altered : alter? change names e? = some e') :
    ∃ new, change (e?.bind (find? names)) = some new ∧ e'.find? names = some new := by
  -- Down the names, from whatever entry is there: the change goes on in the one that is looked up.
  induction names generalizing e? e' with
  | nil =>
    rw [bind_find?_nil]
    exact ⟨e', altered, rfl⟩
  | cons name rest ih =>
    obtain ⟨entries, new, below, rfl, _, same⟩ := exists_of_alter altered
    rw [find?, Members.lookup_insert, if_pos rfl, Option.bind_some, same]
    exact ih below

/-- A change leaves the files at all other places. -/
theorem file?_find?_alter (shallow : Shallow change) (altered : alter? change names e? = some e')
    (elsewhere : other ≠ names) :
    (e'.find? other).bind file? = (e?.bind (find? other)).bind file? := by
  -- Both rows of names are followed as long as they agree; where they part, nothing is changed.
  induction names generalizing e? e' other with
  | nil =>
    cases other with
    | nil => exact absurd rfl elsewhere
    | cons first more => rw [shallow.below e? e' altered]
  | cons name rest ih =>
    obtain ⟨entries, new, below, rfl, none, same⟩ := exists_of_alter altered
    cases other with
    | nil =>
      rw [bind_find?_nil, none]
      rfl
    | cons first more =>
      rw [find?, Members.lookup_insert, same]
      by_cases own : name = first
      · subst own
        rw [if_pos rfl, Option.bind_some]
        exact ih below fun same => elsewhere (congrArg _ same)
      · rw [if_neg own]

/-- Directories stay directories when something is changed. -/
theorem isDirectory_find?_alter (shallow : Shallow change)
    (altered : alter? change names e? = some e')
    (before : (e?.bind (find? other)).any isDirectory) : (e'.find? other).any isDirectory := by
  induction names generalizing e? e' other with
  | nil =>
    cases other with
    | nil =>
      rw [bind_find?_nil] at before
      exact shallow.directory e? e' altered before
    | cons first more =>
      rw [shallow.below e? e' altered]
      exact before
  | cons name rest ih =>
    obtain ⟨entries, new, below, rfl, _, same⟩ := exists_of_alter altered
    cases other with
    | nil => rfl
    | cons first more =>
      rw [same] at before
      rw [find?, Members.lookup_insert]
      by_cases own : name = first
      · subst own
        rw [if_pos rfl, Option.bind_some]
        exact ih below before
      · rw [if_neg own]
        exact before

/-- Putting a file leaves the files at all other places. -/
theorem file?_find?_put (put : e.put? text written names = some e') (elsewhere : other ≠ names) :
    (e'.find? other).bind file? = (e.find? other).bind file? :=
  file?_find?_alter (shallow_overwrite text written) put elsewhere

/-- Directories stay directories when a file is put. -/
theorem isDirectory_find?_put (put : e.put? text written names = some e')
    (before : (e.find? other).any isDirectory) : (e'.find? other).any isDirectory :=
  isDirectory_find?_alter (shallow_overwrite text written) put before

/-- A file that is put is there. -/
theorem find?_put (put : e.put? text written names = some e') :
    e'.find? names = some (.file text written) := by
  obtain ⟨new, changed, there⟩ := find?_alter put
  rw [there, ← changed]
  rcases found : e.find? names with _ | ⟨_, _⟩ | entries
  · rw [Option.bind_some, found]
    rfl
  · rw [Option.bind_some, found]
    rfl
  · rw [Option.bind_some, found] at changed
    cases changed

/-- Making a directory changes no file. -/
theorem file?_find?_make (made : e.make? names = some e') (other : List OsString) :
    (e'.find? other).bind file? = (e.find? other).bind file? := by
  by_cases here : other = names
  · subst here
    obtain ⟨new, changed, there⟩ := find?_alter made
    rw [there]
    rw [Option.bind_some] at changed
    rcases found : e.find? other with _ | ⟨_, _⟩ | entries
    · rw [found] at changed
      obtain rfl := Option.some.inj changed
      rfl
    · rw [found] at changed
      cases changed
    · rw [found] at changed
      obtain rfl := Option.some.inj changed
      rfl
  · exact file?_find?_alter shallow_makeDirectory made here

/-- Directories stay directories when another is made. -/
theorem isDirectory_find?_make (made : e.make? names = some e')
    (before : (e.find? other).any isDirectory) : (e'.find? other).any isDirectory :=
  isDirectory_find?_alter shallow_makeDirectory made before

end Entry

/-! ### The names of documents and artifacts -/

namespace Path

variable {path name base : String}

/-- What ends in the suffix of artifacts has the extension of JSON. -/
theorem extension?_append_artifactSuffix (path : String) :
    extension? (path ++ Contract.artifactSuffix) = some "json" := by
  obtain ⟨front, name⟩ : ∃ front, fileName? (path ++ Contract.artifactSuffix) =
      some (front ++ Contract.artifactSuffix) :=
    exists_fileName?_append path (by decide) fun front idle among same => by
      -- The suffix alone is longer than the names that are passed over.
      have longer := congrArg (fun name => name.toList.length) same
      simp only [List.mem_cons, List.not_mem_nil, or_false] at among
      rcases among with rfl | rfl | rfl <;>
        simp [Contract.artifactSuffix] at longer
  have parts : splitName (front ++ Contract.artifactSuffix) = (front ++ ".models", some "json") :=
    splitName_eq_some_iff.mpr ⟨by rw [String.append_assoc, String.append_assoc]; rfl, by simp,
      by decide⟩
  rw [extension?, name, Option.bind_some, parts]

/-- An artifact has the extension of JSON, in whatever directory it is. -/
theorem extension?_artifact (directory api : String) :
    extension? (join directory (api ++ Contract.artifactSuffix)) = some "json" := by
  obtain ⟨longer, same⟩ := exists_join_append directory api Contract.artifactSuffix
  rw [same, extension?_append_artifactSuffix]

end Path

variable {l : Location} {name api : String}

/-- The API of a file whose name is a text. -/
theorem apiName?_of_fileName? (named : l.fileName? = some (OsString.ofText name)) : apiName? l =
    if Text.startsWith name "#" || Text.startsWith name ".#" then none
    else (Path.splitName name).2.bind fun extension =>
      if !(["yaml", "yml"].contains extension) then none
      else if isConfigStem (Path.splitName name).1 then none
      else some (Path.splitName name).1 := by
  rw [apiName?, Location.extension?, Location.stem?, named]
  simp only [Option.bind_eq_bind, Option.bind_some, Option.map_some, OsString.text?_ofText,
    OsString.splitName_ofText]
  split
  · rfl
  · cases (Path.splitName name).2 with
    | none => rfl
    | some extension => simp

/-- A document has a name that is a text. -/
theorem exists_fileName?_of_apiName? (document : apiName? l = some api) :
    ∃ name, l.fileName? = some (OsString.ofText name) := by
  obtain ⟨own, named, document⟩ := Option.bind_eq_some_iff.mp document
  obtain ⟨name, text, _⟩ := Option.bind_eq_some_iff.mp document
  exact ⟨name, OsString.text?_eq_some_iff.mp text ▸ named⟩

/-- The name of a document cut into the name of its API and an extension of documents. -/
theorem apiName?_eq_some_iff (named : l.fileName? = some (OsString.ofText name)) :
    apiName? l = some api ↔ (name = api ++ ".yaml" ∨ name = api ++ ".yml") ∧ api ≠ "" ∧
      Text.startsWith name "#" = false ∧ Text.startsWith name ".#" = false ∧
        isConfigStem api = false := by
  have cut : ∀ extension, name = api ++ "." ++ extension ∧ api ≠ "" ∧ '.' ∉ extension.toList ↔
      Path.splitName name = (api, some extension) :=
    fun extension => Path.splitName_eq_some_iff.symm
  have dotted : ∀ extension, api ++ "." ++ extension = api ++ ("." ++ extension) :=
    fun extension => String.append_assoc ..
  rw [apiName?_of_fileName? named]
  obtain ⟨stem, extension?, parts⟩ : ∃ stem extension?, Path.splitName name = (stem, extension?) :=
    ⟨_, _, rfl⟩
  rw [parts]
  constructor
  · intro document
    split at document
    · cases document
    · rename_i kept
      obtain ⟨extension, rfl, document⟩ := Option.bind_eq_some_iff.mp document
      split at document
      · cases document
      · rename_i listed
        split at document
        · cases document
        · rename_i own
          obtain rfl := Option.some.inj document
          obtain ⟨whole, filled, _⟩ := (cut extension).mpr parts
          simp only [Bool.or_eq_true, not_or, Bool.not_eq_true] at kept own
          refine ⟨?_, filled, kept.1, kept.2, own⟩
          have listed : extension = "yaml" ∨ extension = "yml" := by
            simpa [or_iff_not_imp_left] using listed
          rw [whole, dotted]
          rcases listed with rfl | rfl
          · exact .inl rfl
          · exact .inr rfl
  · rintro ⟨ending, filled, hash, editor, config⟩
    obtain ⟨extension, listed, same⟩ : ∃ extension, ["yaml", "yml"].contains extension ∧
        Path.splitName name = (api, some extension) := by
      rcases ending with rfl | rfl
      · exact ⟨"yaml", by decide, (cut _).mp ⟨by rw [dotted]; rfl, filled, by decide⟩⟩
      · exact ⟨"yml", by decide, (cut _).mp ⟨by rw [dotted]; rfl, filled, by decide⟩⟩
    obtain ⟨rfl, rfl⟩ := Prod.mk.inj (parts.symm.trans same)
    rw [hash, editor, Bool.or_false, if_neg Bool.false_ne_true, Option.bind_some, listed]
    simp [config]

/-- Documents and artifacts have different names. -/
theorem ne_artifact_of_apiName? {other : String} (document : apiName? l = some api)
    (named : l.fileName? = some (OsString.ofText name))
    (json : (Path.splitName other).2 = some "json") : name ≠ other := by
  rintro rfl
  obtain ⟨ending, filled, _⟩ := (apiName?_eq_some_iff named).mp document
  have cut : ∀ extension, name = api ++ "." ++ extension → '.' ∉ extension.toList →
      some extension = some "json" := fun extension whole plain => by
    rw [← json, Path.splitName_eq_some_iff.mpr ⟨whole, filled, plain⟩]
  rcases ending with whole | whole
  · exact absurd (cut "yaml" (by rw [whole, String.append_assoc]; rfl) (by decide)) (by decide)
  · exact absurd (cut "yml" (by rw [whole, String.append_assoc]; rfl) (by decide)) (by decide)

/-! ### What locations lead to -/

namespace Files

variable {f g h : Files} {l m : Location} {name : OsString} {names reached : List OsString}
  {text : String}

/-- A fold of partial steps goes as far when every step that was possible is possible. -/
private theorem foldlM_of_steps {α β : Type} {step step' : β → α → Option β}
    (possible : ∀ b a c, step b a = some c → step' b a = some c) {items : List α}
    {start last : β} (done : items.foldlM step start = some last) :
    items.foldlM step' start = some last := by
  induction items generalizing start with
  | nil => exact done
  | cons a rest ih =>
    obtain ⟨next, here, later⟩ := Option.bind_eq_some_iff.mp done
    exact Option.bind_eq_some_iff.mpr ⟨next, possible _ _ _ here, ih later⟩

theorem step?_of_ne (down : name ≠ OsString.ofText "..") :
    f.step? reached name = some (reached ++ [name]) := by
  rw [step?, if_neg down]

/-- Only a step upwards looks at the tree, and it asks for no more than a directory. -/
theorem step?_of_directories
    (directories : ∀ names, (f.root.find? names).any Entry.isDirectory →
      (g.root.find? names).any Entry.isDirectory)
    (stepped : f.step? reached name = some names) : g.step? reached name = some names := by
  rw [step?] at stepped ⊢
  split at stepped
  · rename_i up
    rw [if_pos up]
    split at stepped
    · rename_i above
      rw [if_pos (directories reached above)]
      exact stepped
    · cases stepped
  · rename_i down
    rw [if_neg down]
    exact stepped

/-- A location leads where it did as long as directories stay directories. -/
theorem resolve?_of_directories (working : g.working = f.working)
    (directories : ∀ names, (f.root.find? names).any Entry.isDirectory →
      (g.root.find? names).any Entry.isDirectory)
    (resolved : f.resolve? l = some names) : g.resolve? l = some names := by
  rw [resolve?] at resolved ⊢
  split at resolved
  · cases resolved
  · rename_i named
    rw [if_neg named, start, working]
    exact foldlM_of_steps (fun _ _ _ => step?_of_directories directories) resolved

/-- The last name that a location leads to is the last name of the location. -/
theorem getLast?_of_resolve? (resolved : f.resolve? l = some names)
    (named : l.fileName? = some name) : names.getLast? = some name := by
  obtain ⟨last, down⟩ := Option.filter_eq_some_iff.mp named
  obtain ⟨front, split⟩ := List.getLast?_eq_some_iff.mp last
  rw [resolve?] at resolved
  split at resolved
  · cases resolved
  · -- Wherever the names before it lead, the last name is put behind.
    rw [split, List.foldlM_append] at resolved
    obtain ⟨reached, _, final⟩ := Option.bind_eq_some_iff.mp resolved
    rw [List.foldlM_cons, step?_of_ne (by simpa using down)] at final
    obtain rfl := Option.some.inj final
    simp

/-- An entry is where the directory is, one name further. -/
theorem resolve?_entry (resolved : f.resolve? l = some reached)
    (down : name ≠ OsString.ofText "..") : f.resolve? (l.entry name) = some (reached ++ [name]) := by
  have further : (l.entry name).steps = l.steps ++ [name] := (List.append_assoc ..).symm
  rw [resolve?] at resolved ⊢
  split at resolved
  · cases resolved
  · rename_i named
    rw [show (l.entry name).path = l.path from rfl, if_neg named, further, List.foldlM_append]
    refine Option.bind_eq_some_iff.mpr ⟨reached, resolved, ?_⟩
    rw [List.foldlM_cons, step?_of_ne down]
    rfl

/-! ### The files at locations -/

/-- The text of the file at a place, and when it was written. -/
def at? (f : Files) (names : List OsString) : Option (String × Int) :=
  (f.root.find? names).bind Entry.file?

/-- The text of the file at a location, and when it was written. -/
def file? (f : Files) (l : Location) : Option (String × Int) :=
  (f.entry? l).bind Entry.file?

/-- The file at a location is the one that its names lead to, unless only a directory can be
there. -/
theorem file?_of_resolve? (resolved : f.resolve? l = some names) :
    f.file? l = if l.needsDirectory then none else f.at? names := by
  rw [file?, entry?, resolved, at?]
  cases found : f.root.find? names with
  | none =>
    change Option.bind (f.root.find? names >>= _) _ = _
    rw [found]
    simp
  | some e =>
    change Option.bind (f.root.find? names >>= _) _ = _
    rw [found]
    cases e <;> cases l.needsDirectory <;> rfl

/-- What is read of a contract's file is its text and its time. -/
theorem loadNamed_eq (f : Files) (api : String) (l : Location) : Contract.loadNamed f api l =
    match f.file? l with
    | some (text, written) => do
      return { ← Contract.parse api text with file := some (l, written) }
    | none => .error (.unreadable l.display) := by
  rw [Contract.loadNamed, read?, written?, file?]
  rcases f.entry? l with _ | ⟨_, _⟩ | _ <;> rfl

theorem loadNamed_of_file? (same : g.file? l = f.file? l) (api : String) :
    Contract.loadNamed g api l = Contract.loadNamed f api l := by
  rw [loadNamed_eq, loadNamed_eq, same]

/-- Writing a file puts it where its location leads to. -/
theorem put?_of_write? (write : f.write? l text = some g) :
    ∃ names root, f.resolve? l = some names ∧ l.needsDirectory = false ∧
      f.root.put? text f.clock names = some root ∧
      g = { f with root, clock := f.clock + 1 } := by
  obtain ⟨placed, place, rfl⟩ := Option.map_eq_some_iff.mp write
  obtain ⟨names, resolved, place⟩ := Option.bind_eq_some_iff.mp place
  split at place
  · cases place
  · rename_i usable
    obtain ⟨root, put, made⟩ := Option.bind_eq_some_iff.mp place
    obtain rfl := Option.some.inj made
    simp only [Bool.or_eq_true, not_or, Bool.not_eq_true] at usable
    exact ⟨names, root, resolved, usable.1, put, rfl⟩

/-- Writing a file leaves the files with other names as they are. -/
theorem file?_write {other : OsString} (write : f.write? l text = some g)
    (named : l.fileName? = some name) (resolves : (f.resolve? m).isSome)
    (otherNamed : m.fileName? = some other) (apart : other ≠ name) : g.file? m = f.file? m := by
  obtain ⟨names, root, resolved, _, put, rfl⟩ := put?_of_write? write
  obtain ⟨others, here⟩ := Option.isSome_iff_exists.mp resolves
  have there : ({ f with root, clock := f.clock + 1 } : Files).resolve? m = some others :=
    resolve?_of_directories (f := f) rfl (fun _ => Entry.isDirectory_find?_put put) here
  have elsewhere : others ≠ names := by
    rintro rfl
    have last := getLast?_of_resolve? here otherNamed
    rw [getLast?_of_resolve? resolved named] at last
    exact apart (Option.some.inj last).symm
  rw [file?_of_resolve? here, file?_of_resolve? there, at?, at?,
    Entry.file?_find?_put put elsewhere]

/-- Directories have been made, and nothing else has changed. -/
structure Grown (f g : Files) : Prop where
  clock : g.clock = f.clock
  working : g.working = f.working
  directories (names : List OsString) : (f.root.find? names).any Entry.isDirectory →
    (g.root.find? names).any Entry.isDirectory
  files (names : List OsString) : g.at? names = f.at? names

theorem Grown.refl (f : Files) : f.Grown f :=
  ⟨rfl, rfl, fun _ before => before, fun _ => rfl⟩

theorem Grown.trans (first : f.Grown g) (second : g.Grown h) : f.Grown h where
  clock := second.clock.trans first.clock
  working := second.working.trans first.working
  directories names before := second.directories names (first.directories names before)
  files names := (second.files names).trans (first.files names)

theorem Grown.resolve? (grown : f.Grown g) (resolved : f.resolve? l = some names) :
    g.resolve? l = some names :=
  resolve?_of_directories grown.working grown.directories resolved

theorem Grown.file? (grown : f.Grown g) (resolves : (f.resolve? l).isSome) :
    g.file? l = f.file? l := by
  obtain ⟨names, here⟩ := Option.isSome_iff_exists.mp resolves
  rw [file?_of_resolve? here, file?_of_resolve? (grown.resolve? here), grown.files]

/-- One name further, a directory is made at most. -/
theorem grown_of_makeStep (stepped : makeStep? (f, reached) name = some (g, names)) :
    f.Grown g := by
  rw [makeStep?] at stepped
  split at stepped
  · obtain ⟨_, _, same⟩ := Option.map_eq_some_iff.mp stepped
    obtain ⟨rfl, rfl⟩ := Prod.mk.inj same
    exact .refl f
  · obtain ⟨root, made, same⟩ := Option.map_eq_some_iff.mp stepped
    obtain ⟨rfl, rfl⟩ := Prod.mk.inj same
    exact ⟨rfl, rfl, fun _ => Entry.isDirectory_find?_make made, Entry.file?_find?_make made⟩

private theorem grown_of_foldlM {place : List OsString}
    (made : names.foldlM makeStep? (f, place) = some (g, reached)) : f.Grown g := by
  -- On the names that are left; the files and the place change with each.
  induction names generalizing f place with
  | nil =>
    obtain ⟨rfl, rfl⟩ := Prod.mk.inj (Option.some.inj made)
    exact .refl f
  | cons name rest ih =>
    obtain ⟨⟨next, further⟩, stepped, onward⟩ := Option.bind_eq_some_iff.mp made
    exact (grown_of_makeStep stepped).trans (ih onward)

/-- Making a directory, with those on the way, changes nothing else. -/
theorem grown_of_makeDirectories (made : f.makeDirectories? l = some g) : f.Grown g := by
  rw [makeDirectories?] at made
  split at made
  · obtain rfl := Option.some.inj made
    exact .refl f
  · obtain ⟨_, steps, rfl⟩ := Option.map_eq_some_iff.mp made
    exact grown_of_foldlM steps

/-- An artifact is written after directories have been made. -/
theorem write?_of_artifact {a : Artifact} (written : a.write f l = .ok h) :
    ∃ g, f.Grown g ∧ g.write? l a.toJson.pretty = some h := by
  obtain ⟨g, room, written⟩ := bind_eq_ok.mp written
  refine ⟨g, ?_, ?_⟩
  · rw [Artifact.makeRoom] at room
    split at room
    · obtain rfl := Except.ok.inj room
      exact .refl f
    · split at room
      · rename_i made
        obtain rfl := Except.ok.inj room
        exact grown_of_makeDirectories made
      · cases room
  · split at written
    · rename_i put
      obtain rfl := Except.ok.inj written
      exact put
    · cases written

/-- Directories stay directories, and documents that have a place stay as they are. -/
structure Keeps (f g : Files) : Prop where
  working : g.working = f.working
  directories (names : List OsString) : (f.root.find? names).any Entry.isDirectory →
    (g.root.find? names).any Entry.isDirectory
  documents (l : Location) : (f.resolve? l).isSome → (apiName? l).isSome → g.file? l = f.file? l

theorem Keeps.refl (f : Files) : f.Keeps f where
  working := rfl
  directories _ before := before
  documents _ _ _ := rfl

theorem Keeps.resolve? (keeps : f.Keeps g) (resolved : f.resolve? l = some names) :
    g.resolve? l = some names :=
  resolve?_of_directories keeps.working keeps.directories resolved

theorem Keeps.grown (keeps : f.Keeps g) (grown : g.Grown h) : f.Keeps h where
  working := grown.working.trans keeps.working
  directories names before := grown.directories names (keeps.directories names before)
  documents l resolves document := by
    obtain ⟨names, here⟩ := Option.isSome_iff_exists.mp resolves
    rw [grown.file? (by rw [keeps.resolve? here]; rfl), keeps.documents l resolves document]

/-- Artifacts take the place of no document. -/
theorem Keeps.write {directory api text : String} (keeps : f.Keeps g)
    (write : g.write? (Path.join directory (api ++ Contract.artifactSuffix)) text = some h) :
    f.Keeps h := by
  obtain ⟨names, root, _, _, put, rfl⟩ := put?_of_write? write
  refine ⟨keeps.working, fun names before => ?_, fun l resolves document => ?_⟩
  · exact Entry.isDirectory_find?_put put (keeps.directories names before)
  · obtain ⟨others, here⟩ := Option.isSome_iff_exists.mp resolves
    obtain ⟨name, named, json⟩ :=
      Option.bind_eq_some_iff.mp (Path.extension?_artifact directory api)
    have artifact : (Path.join directory (api ++ Contract.artifactSuffix) : Location).fileName? =
        some (OsString.ofText name) := by rw [Location.fileName?_path, named]; rfl
    obtain ⟨own, yaml⟩ := Option.isSome_iff_exists.mp document
    obtain ⟨other, otherNamed⟩ := exists_fileName?_of_apiName? yaml
    -- One extension belongs to the document, the other to the artifact.
    have apart := ne_artifact_of_apiName? yaml otherNamed json
    rw [file?_write write artifact (by rw [keeps.resolve? here]; rfl) otherNamed
      (OsString.ofText_injective.ne apart), keeps.documents l resolves document]

/-! ### Discovered documents -/

variable {ignored : List String} {path : String} {found : List (String × Location)}

theorem addDocument_cases {after : List (String × Location)}
    (added : addDocument ignored found l = .ok after) :
    after = found ∨ ∃ api, apiName? l = some api ∧ after = Members.insert api l found := by
  rw [addDocument] at added
  cases named : apiName? l with
  | none =>
    rw [named] at added
    exact .inl (Except.ok.inj added).symm
  | some api =>
    rw [named] at added
    dsimp only at added
    split at added
    · exact .inl (Except.ok.inj added).symm
    · split at added
      · cases added
      · exact .inr ⟨api, rfl, (Except.ok.inj added).symm⟩

/-- The documents that are discovered are at and below the directory. -/
theorem mem_of_documents (discovered : f.documents path ignored = .ok found) :
    ∃ e, f.entry? path = some e ∧
      ∀ d ∈ found, d.2 ∈ e.locations path ∧ apiName? d.2 = some d.1 := by
  rw [documents] at discovered
  cases here : f.entry? path with
  | none =>
    rw [here] at discovered
    cases discovered
  | some e =>
    rw [here] at discovered
    refine ⟨e, rfl, ?_⟩
    refine foldlM_invariant (fun found => ∀ d ∈ found, d.2 ∈ e.locations path ∧
      apiName? d.2 = some d.1) ?_ discovered (by simp)
    intro before after l member added known d listed
    rcases addDocument_cases added with rfl | ⟨api, named, rfl⟩
    · exact known d listed
    · rcases Members.mem_insert listed with rfl | old
      · exact ⟨member, named⟩
      · exact known d old

end Files

/-- The name that leads upwards is hidden. -/
theorem ne_of_not_hidden {name : OsString} (shown : ¬ isHiddenName name) :
    name ≠ OsString.ofText ".." := by
  rintro rfl
  refine shown ?_
  rw [isHiddenName, OsString.text?_ofText]
  decide

mutual

/-- Everything at and below a location that leads somewhere leads somewhere. -/
theorem Entry.isSome_resolve?_of_mem_locations {f : Files} {l m : Location}
    (resolves : (f.resolve? l).isSome) :
    (e : Entry) → m ∈ e.locations l → (f.resolve? m).isSome
  | .file .., member => by
    rw [List.mem_singleton.mp member]
    exact resolves
  | .directory entries, member =>
    Entry.isSome_resolve?_of_mem_locationsIn resolves entries member

/-- Everything below a location that leads somewhere leads somewhere. -/
theorem Entry.isSome_resolve?_of_mem_locationsIn {f : Files} {l m : Location}
    (resolves : (f.resolve? l).isSome) :
    (entries : List (OsString × Entry)) → m ∈ Entry.locationsIn l entries →
      (f.resolve? m).isSome
  | [], member => by cases member
  | (name, e) :: rest, member => by
    rcases List.mem_append.mp member with here | later
    · by_cases hidden : isHiddenName name
      · rw [if_pos hidden] at here
        cases here
      · rw [if_neg hidden] at here
        obtain ⟨reached, leads⟩ := Option.isSome_iff_exists.mp resolves
        have further := Files.resolve?_entry leads (ne_of_not_hidden hidden)
        exact e.isSome_resolve?_of_mem_locations (by rw [further]; rfl) here
    · exact Entry.isSome_resolve?_of_mem_locationsIn resolves rest later

end

namespace Files

variable {f : Files} {path : String} {ignored : List String} {found : List (String × Location)}

/-- The documents that are discovered lead somewhere. -/
theorem isSome_resolve?_of_documents (discovered : f.documents path ignored = .ok found) :
    ∀ d ∈ found, (f.resolve? d.2).isSome ∧ apiName? d.2 = some d.1 := by
  obtain ⟨e, here, known⟩ := mem_of_documents discovered
  obtain ⟨names, resolved, _⟩ := Option.bind_eq_some_iff.mp here
  intro d listed
  obtain ⟨member, named⟩ := known d listed
  exact ⟨e.isSome_resolve?_of_mem_locations (by rw [resolved]; rfl) member, named⟩

end Files

end ApiContract
