import ApiContract.Proofs.Files

/-!
# Files as time goes on

Every write gives its file the time of the clock, and the clock goes on. Whatever a file has
become since some moment, either it is the file of that moment, or it was written later.

## Main definitions

* `Files.Puts` — what a write does at every place
* `Files.Past` — every file was written before now
* `Files.Later` — what files have become

## Main results

* `Files.puts_of_write?`, `Files.puts_of_artifact` — a write puts a file where its location leads to
* `Files.Past.put`, `Files.Later.put` — what it keeps
-/

namespace ApiContract

/-- No file below an entry was written after the last one. -/
theorem Entry.le_latest {e : Entry} {text : String} {written : Int} {names : List OsString}
    (found : e.find? names = some (.file text written)) : written ≤ e.latest := by
  induction names generalizing e with
  | nil =>
    obtain rfl := Option.some.inj found
    exact Int.le_refl _
  | cons name rest ih =>
    cases e with
    | file => cases found
    | directory entries =>
      obtain ⟨inner, held, below⟩ := Option.bind_eq_some_iff.mp found
      have listed := Members.mem_of_lookup held
      have bound := ih below
      -- The time of the entry is one of those that the maximum is taken of.
      suffices all : ∀ entries : List (OsString × Entry), (name, inner) ∈ entries →
          inner.latest ≤ latestIn entries from Int.le_trans bound (all entries listed)
      intro entries listed
      induction entries with
      | nil => cases listed
      | cons first more ih =>
        rw [latestIn]
        rcases List.mem_cons.mp listed with rfl | later
        · exact Int.le_max_left _ _
        · exact Int.le_trans (ih later) (Int.le_max_right _ _)

namespace Files

variable {f g h m : Files} {l : Location} {text : String} {names : List OsString}
  {file : String × Int}

/-- The file at a location is the one at the place that it leads to. -/
theorem file?_eq_some_iff : f.file? l = some file ↔
    ∃ names, f.resolve? l = some names ∧ l.needsDirectory = false ∧ f.at? names = some file := by
  cases resolved : f.resolve? l with
  | none =>
    have nothing : f.file? l = none := by
      rw [file?, entry?, resolved]
      rfl
    simp [nothing]
  | some names =>
    rw [file?_of_resolve? resolved]
    by_cases closed : l.needsDirectory
    · simp [closed]
    · simp [closed]

theorem read?_eq (f : Files) (l : Location) : f.read? l = (f.file? l).map Prod.fst := by
  rw [read?, file?]
  rcases f.entry? l with _ | ⟨_, _⟩ | _ <;> rfl

theorem written?_of_file? (found : f.file? l = some file) : f.written? l = some file.2 := by
  obtain ⟨e, here, found⟩ := Option.bind_eq_some_iff.mp found
  cases e with
  | directory => cases found
  | file text written =>
    obtain rfl := Option.some.inj found
    rw [written?, here]
    rfl

/-- A file is put at a place with the time of the clock, and the clock goes on. Nothing else
changes, save for the directories that are made on the way. -/
structure Puts (f : Files) (names : List OsString) (text : String) (g : Files) : Prop where
  clock : g.clock = f.clock + 1
  working : g.working = f.working
  directories (other : List OsString) : (f.root.find? other).any Entry.isDirectory →
    (g.root.find? other).any Entry.isDirectory
  here : g.at? names = some (text, f.clock)
  elsewhere (other : List OsString) : other ≠ names → g.at? other = f.at? other

/-- A write puts a file where its location leads to. -/
theorem puts_of_write? (write : f.write? l text = some g) :
    ∃ names, f.resolve? l = some names ∧ l.needsDirectory = false ∧ f.Puts names text g := by
  obtain ⟨names, root, resolved, usable, put, rfl⟩ := put?_of_write? write
  refine ⟨names, resolved, usable, rfl, rfl, ?_, ?_, ?_⟩
  · exact fun other => Entry.isDirectory_find?_put put
  · rw [at?, Entry.find?_put put]
    rfl
  · exact fun other apart => Entry.file?_find?_put put apart

/-- Directories that are made first make no difference to what a write does. -/
theorem Grown.puts (grown : f.Grown m) (puts : m.Puts names text g) : f.Puts names text g where
  clock := puts.clock.trans (by rw [grown.clock])
  working := puts.working.trans grown.working
  directories other before := puts.directories other (grown.directories other before)
  here := puts.here.trans (by rw [grown.clock])
  elsewhere other apart := (puts.elsewhere other apart).trans (grown.files other)

/-- Every file was written before now. -/
def Past (f : Files) : Prop := ∀ names file, f.at? names = some file → file.2 < f.clock

theorem past_of_latest (past : f.root.latest < f.clock) : f.Past := by
  intro names file found
  obtain ⟨e, there, found⟩ := Option.bind_eq_some_iff.mp found
  cases e with
  | directory => cases found
  | file text written =>
    obtain rfl := Option.some.inj found
    exact Int.lt_of_le_of_lt (Entry.le_latest there) past

theorem Past.put (past : f.Past) (puts : f.Puts names text g) : g.Past := by
  intro other file found
  rw [puts.clock]
  by_cases same : other = names
  · rw [same, puts.here] at found
    obtain rfl := Option.some.inj found
    exact Int.lt_succ _
  · rw [puts.elsewhere other same] at found
    exact Int.lt_trans (past other file found) (Int.lt_succ _)

/-- What files have become: a file is as it was, or it was written since. -/
structure Later (f g : Files) : Prop where
  clock : f.clock ≤ g.clock
  working : g.working = f.working
  directories (names : List OsString) : (f.root.find? names).any Entry.isDirectory →
    (g.root.find? names).any Entry.isDirectory
  files (names : List OsString) (file : String × Int) : g.at? names = some file →
    f.at? names = some file ∨ f.clock ≤ file.2

theorem Later.refl (f : Files) : f.Later f where
  clock := Int.le_refl _
  working := rfl
  directories _ before := before
  files _ _ found := .inl found

theorem Later.put (later : f.Later g) (puts : g.Puts names text h) : f.Later h where
  clock := puts.clock ▸ Int.le_trans later.clock (Int.le_of_lt (Int.lt_succ _))
  working := puts.working.trans later.working
  directories other before := puts.directories other (later.directories other before)
  files other file found := by
    by_cases same : other = names
    · rw [same, puts.here] at found
      obtain rfl := Option.some.inj found
      exact .inr later.clock
    · rw [puts.elsewhere other same] at found
      exact later.files other file found

/-- A location leads where it did. -/
theorem Later.resolve? (later : f.Later g) (resolved : f.resolve? l = some names) :
    g.resolve? l = some names :=
  resolve?_of_directories later.working later.directories resolved

/-- What is written is found, with the time of the clock. -/
theorem file?_of_write? (write : f.write? l text = some g) :
    g.file? l = some (text, f.clock) := by
  obtain ⟨names, leads, usable, puts⟩ := puts_of_write? write
  have stays := ((Later.refl f).put puts).resolve? leads
  exact file?_eq_some_iff.mpr ⟨names, stays, usable, puts.here⟩

/-- An artifact that is written is put where its location leads to once there is room for it, and
is found there. -/
theorem puts_of_artifact {a : Artifact} (written : a.write f l = .ok g) :
    ∃ names, g.resolve? l = some names ∧ f.Puts names a.toJson.pretty g ∧
      g.file? l = some (a.toJson.pretty, f.clock) := by
  obtain ⟨m, grown, write⟩ := write?_of_artifact written
  obtain ⟨names, leads, _, puts⟩ := puts_of_write? write
  refine ⟨names, ((Later.refl m).put puts).resolve? leads, grown.puts puts, ?_⟩
  rw [file?_of_write? write, grown.clock]

end Files

end ApiContract
