import ApiContract.Proofs.Files

/-!
# The documents that are found

The documents below a directory are named by the names that lead to them. A walk lists every
file that is not hidden once, whatever the shape of the tree, and the documents among them are
collected under the names of their APIs. Two documents of one API are never collected: the
walk ends at the second of them.

## Main definitions

* `Entry.isLegal` — an entry as a file system has it
* `Entry.shown` — the names that lead to the files of an entry that are not hidden
* `Entry.IsDocument` — a file below a directory is the document of an API
* `Collected` — what has been found is the documents among the locations seen so far
* `isDotted`, `Entry.dotsAreTexts` — names that start with a dot, and trees in which those of
  directories are texts
* `Entry.IsNamedLikeDocument` — a file has the name of a document

## Main results

* `Entry.locations_eq_map_shown`, `Entry.mem_shown_iff`, `Entry.nodup_shown` — what a walk lists
* `Entry.isDocument_iff` — the documents among the files that are listed
* `Collected.run` — a walk collects the documents of its locations, or ends at a second document
  of an API
* `Files.documents_cases` — the documents of any tree, by the names that the walk takes as hidden
* `Files.documents_exact` — what is found is the documents, or else two of them have one API
* `Files.documents_stray` — which files named like documents are not found, and which others are
-/

namespace ApiContract

/-! ### Walking through a tree -/

namespace Entry

mutual

/-- Whether the names in every directory are different. -/
def isLegal : Entry → Bool
  | .file .. => true
  | .directory entries => decide (Members.keys entries).Nodup && isLegalIn entries

/-- Whether the names in every directory below entries are different. -/
def isLegalIn : List (OsString × Entry) → Bool
  | [] => true
  | (_, e) :: rest => e.isLegal && isLegalIn rest

end

mutual

/-- The names that lead to the files of an entry, without those that are hidden. -/
def shown : Entry → List (List OsString)
  | .file .. => [[]]
  | .directory entries => shownIn entries

/-- The names that lead to the files among entries, without those that are hidden. -/
def shownIn : List (OsString × Entry) → List (List OsString)
  | [] => []
  | (name, e) :: rest =>
    (if isHiddenName name then [] else e.shown.map (name :: ·)) ++ shownIn rest

end

variable {e e' : Entry} {entries : List (OsString × Entry)} {name : OsString}
  {names : List OsString}

theorem isLegalIn_iff : isLegalIn entries ↔ ∀ p ∈ entries, p.2.isLegal := by
  induction entries with
  | nil => simp [isLegalIn]
  | cons p rest ih => simp [isLegalIn, ih]

theorem isLegal_directory_iff : (directory entries).isLegal ↔
    (Members.keys entries).Nodup ∧ ∀ p ∈ entries, p.2.isLegal := by
  rw [isLegal, Bool.and_eq_true, decide_eq_true_eq, isLegalIn_iff]

mutual

/-- A walk lists the files that are not hidden, by the names that lead to them. -/
theorem locations_eq_map_shown (l : Location) :
    (e : Entry) → e.locations l = e.shown.map l.onward
  | .file .. => by
    rw [locations, shown, List.map_singleton, Location.onward, List.append_nil]
  | .directory entries => locationsIn_eq_map_shownIn l entries

/-- A walk through entries lists the files that are not hidden. -/
theorem locationsIn_eq_map_shownIn (l : Location) :
    (entries : List (OsString × Entry)) → locationsIn l entries =
      (shownIn entries).map l.onward
  | [] => rfl
  | (name, e) :: rest => by
    rw [locationsIn, shownIn, List.map_append, ← locationsIn_eq_map_shownIn l rest]
    by_cases hidden : isHiddenName name
    · rw [if_pos hidden, if_pos hidden]
      rfl
    · rw [if_neg hidden, if_neg hidden, locations_eq_map_shown (l.entry name) e, List.map_map]
      congr 2
      funext names
      rw [Function.comp_apply, Location.onward, Location.onward, Location.entry, List.append_assoc]
      rfl

end

theorem mem_shownIn_iff : names ∈ shownIn entries ↔
    ∃ p ∈ entries, isHiddenName p.1 = false ∧ ∃ rest ∈ p.2.shown, p.1 :: rest = names := by
  induction entries with
  | nil => simp [shownIn]
  | cons p rest ih =>
    rw [shownIn, List.mem_append, ih, List.exists_mem_cons_iff]
    refine or_congr_left ?_
    cases hidden : isHiddenName p.1 <;> simp

/-- What is listed of an entry are its files that are not hidden. -/
theorem mem_shown_iff (legal : e.isLegal) : names ∈ e.shown ↔
    (∃ text written, e.find? names = some (.file text written)) ∧
      ∀ name ∈ names, isHiddenName name = false := by
  induction names generalizing e with
  | nil =>
    cases e with
    | file text written => simp [shown, find?]
    | directory entries => simp [shown, mem_shownIn_iff, find?]
  | cons name rest ih =>
    cases e with
    | file text written => simp [shown, find?]
    | directory entries =>
      -- Names are distinct, so that an entry which is listed is the one found under its name.
      obtain ⟨distinct, inside⟩ := isLegal_directory_iff.mp legal
      rw [shown, mem_shownIn_iff, find?, List.forall_mem_cons]
      constructor
      · rintro ⟨⟨_, inner⟩, member, seen, _, below, same⟩
        obtain ⟨rfl, rfl⟩ := List.cons.inj same
        obtain ⟨file, further⟩ := (ih (inside _ member)).mp below
        rw [Members.lookup_of_mem distinct member]
        exact ⟨file, seen, further⟩
      · rintro ⟨⟨text, written, found⟩, seen, further⟩
        obtain ⟨inner, here, below⟩ := Option.bind_eq_some_iff.mp found
        have member := Members.mem_of_lookup here
        exact ⟨_, member, seen, rest,
          (ih (inside _ member)).mpr ⟨⟨text, written, below⟩, further⟩, rfl⟩

mutual

/-- No file of an entry is listed twice. -/
theorem nodup_shown : (e : Entry) → e.isLegal → e.shown.Nodup
  | .file .., _ => List.nodup_singleton _
  | .directory entries, legal =>
    nodup_shownIn entries (isLegal_directory_iff.mp legal).1 (isLegal_directory_iff.mp legal).2

/-- No file among entries is listed twice. -/
theorem nodup_shownIn : (entries : List (OsString × Entry)) → (Members.keys entries).Nodup →
    (∀ p ∈ entries, p.2.isLegal) → (shownIn entries).Nodup
  | [], _, _ => List.nodup_nil
  | (name, e) :: rest, distinct, legal => by
    obtain ⟨apart, distinct⟩ := List.nodup_cons.mp distinct
    obtain ⟨here, later⟩ := List.forall_mem_cons.mp legal
    rw [shownIn, List.nodup_append]
    refine ⟨?_, nodup_shownIn rest distinct later, ?_⟩
    · split
      · exact List.nodup_nil
      · exact (nodup_shown e here).map fun _ _ same => (List.cons.inj same).2
    · -- The first name tells the files of one entry from those of the others.
      rintro names first others second rfl
      obtain ⟨p, member, _, below, _, same⟩ := mem_shownIn_iff.mp second
      split at first
      · cases first
      · obtain ⟨_, _, own⟩ := List.mem_map.mp first
        have key : p.1 ∈ Members.keys rest := List.mem_map_of_mem member
        rw [← (List.cons.inj (own.trans same.symm)).1] at key
        exact apart key

end

end Entry

/-! ### Documents -/

theorem stem?_of_apiName? {l : Location} {api : String} (document : apiName? l = some api) :
    l.stem? = some (OsString.ofText api) := by
  obtain ⟨name, named⟩ := exists_fileName?_of_apiName? document
  obtain ⟨ending, filled, _⟩ := (apiName?_eq_some_iff named).mp document
  have cut : ∀ extension, name = api ++ "." ++ extension → '.' ∉ extension.toList →
      l.stem? = some (OsString.ofText api) := fun extension whole plain => by
    rw [Location.stem?, named, Option.map_some, OsString.splitName_ofText,
      Path.splitName_eq_some_iff.mpr ⟨whole, filled, plain⟩]
  rcases ending with whole | whole
  · exact cut "yaml" (by rw [whole, String.append_assoc]; rfl) (by decide)
  · exact cut "yml" (by rw [whole, String.append_assoc]; rfl) (by decide)

theorem isConfigStem_eq_false_iff {stem : String} : isConfigStem stem = false ↔
    stem ≠ "ptolemy" ∧ Text.startsWith stem "ptolemy." = false := by
  simp [isConfigStem]

/-- A name that starts like that of a configuration file is one. -/
theorem isConfigStem_append {stem : String} (config : isConfigStem stem) (rest : String) :
    isConfigStem (stem ++ "." ++ rest) := by
  have starts : ∃ more, stem ++ "." ++ rest = "ptolemy." ++ more := by
    simp only [isConfigStem, Bool.or_eq_true, decide_eq_true_eq, Text.startsWith,
      Option.isSome_iff_exists, Text.stripStart?_eq_some_iff] at config
    rcases config with rfl | ⟨more, rfl⟩
    · have dotted : "ptolemy" ++ "." = "ptolemy." := by decide
      exact ⟨rest, by rw [dotted]⟩
    · exact ⟨more ++ "." ++ rest, by simp only [String.append_assoc]⟩
  obtain ⟨more, same⟩ := starts
  rw [isConfigStem, Bool.or_eq_true]
  exact .inr (Option.isSome_iff_exists.mpr ⟨more, Text.stripStart?_eq_some_iff.mpr same⟩)

/-- A file below a directory is the document of an API: it has one of the two extensions, neither
it nor a directory above it is hidden, no editor has left it behind, it is no configuration file,
and its API is not ignored. -/
structure Entry.IsDocument (e : Entry) (hides : OsString → Bool) (ignored : List String)
    (names : List OsString) (api : String) : Prop where
  file : ∃ text written, e.find? names = some (.file text written)
  named : names.getLast? = some (OsString.ofText (api ++ ".yaml")) ∨
    names.getLast? = some (OsString.ofText (api ++ ".yml"))
  shown : ∀ name ∈ names, hides name = false
  kept : ∀ name ∈ names.getLast?, name.startsWith "#" = false ∧ name.startsWith ".#" = false
  own : api ≠ "ptolemy" ∧ Text.startsWith api "ptolemy." = false
  counted : api ∉ ignored

section Documents

variable {e : Entry} {hides other : OsString → Bool} {ignored fewer : List String}
  {names : List OsString} {api : String}

/-- The last name of a document is a text. -/
theorem Entry.IsDocument.exists_last (document : e.IsDocument hides ignored names api) :
    ∃ name, names.getLast? = some (OsString.ofText name) ∧
      (name = api ++ ".yaml" ∨ name = api ++ ".yml") := by
  rcases document.named with last | last
  · exact ⟨_, last, .inl rfl⟩
  · exact ⟨_, last, .inr rfl⟩

/-- The documents among the files that a walk lists. -/
theorem Entry.isDocument_iff (legal : e.isLegal) (above : e.isDirectory) (l : Location) :
    e.IsDocument isHiddenName ignored names api ↔
      names ∈ e.shown ∧ apiName? (l.onward names) = some api ∧ api ∉ ignored := by
  rw [Entry.mem_shown_iff legal]
  have named : ∀ {name}, names.getLast? = some (OsString.ofText name) →
      (∀ name ∈ names, isHiddenName name = false) →
      (l.onward names).fileName? = some (OsString.ofText name) := fun last shown =>
    Location.fileName?_onward last
      (ne_of_not_hidden (Bool.eq_false_iff.mp (shown _ (List.mem_of_getLast? last))))
  constructor
  · intro document
    obtain ⟨name, last, ending⟩ := document.exists_last
    obtain ⟨hash, editor⟩ := document.kept _ last
    rw [OsString.startsWith_ofText] at hash editor
    refine ⟨⟨document.file, document.shown⟩, ?_, document.counted⟩
    refine (apiName?_eq_some_iff (named last document.shown)).mpr
      ⟨ending, ?_, hash, editor, isConfigStem_eq_false_iff.mpr document.own⟩
    -- A name that is an extension only is hidden.
    rintro rfl
    have shown := document.shown _ (List.mem_of_getLast? last)
    rw [isHiddenName, OsString.text?_ofText, Option.any_some] at shown
    rcases ending with rfl | rfl <;> exact absurd shown (by decide)
  · rintro ⟨⟨⟨text, written, found⟩, shown⟩, document, counted⟩
    have below : names ≠ [] := by
      rintro rfl
      obtain rfl := Option.some.inj found
      cases above
    obtain ⟨last, isLast⟩ := List.getLast?_isSome.mpr below |> Option.isSome_iff_exists.mp
    obtain ⟨name, own⟩ := exists_fileName?_of_apiName? document
    obtain rfl : last = OsString.ofText name := by
      have down := ne_of_not_hidden (Bool.eq_false_iff.mp (shown _ (List.mem_of_getLast? isLast)))
      exact Option.some.inj ((Location.fileName?_onward isLast down).symm.trans own)
    obtain ⟨ending, _, hash, editor, config⟩ := (apiName?_eq_some_iff own).mp document
    refine ⟨⟨text, written, found⟩, ?_, shown, ?_, isConfigStem_eq_false_iff.mp config, counted⟩
    · rw [isLast, Option.some.injEq, Option.some.injEq, OsString.ofText_inj, OsString.ofText_inj]
      exact ending
    · rw [isLast]
      rintro _ ⟨⟩
      rw [OsString.startsWith_ofText, OsString.startsWith_ofText]
      exact ⟨hash, editor⟩

/-- A document is one when fewer APIs are ignored. -/
theorem Entry.IsDocument.mono (document : e.IsDocument hides ignored names api)
    (less : fewer ⊆ ignored) : e.IsDocument hides fewer names api :=
  { document with counted := mt (less ·) document.counted }

/-- A document is one for all who take none of its names as hidden. -/
theorem Entry.IsDocument.of_shown (document : e.IsDocument hides ignored names api)
    (shown : ∀ name ∈ names, other name = false) : e.IsDocument other ignored names api :=
  { document with shown }

end Documents

/-! ### Collecting documents -/

section Collecting

variable {ignored : List String} {seen rest : List Location} {found : List (String × Location)}
  {l : Location} {api : String}

/-- What has been found is the documents among the locations seen so far, in increasing order
of the names of their APIs. -/
structure Collected (ignored : List String) (seen : List Location)
    (found : List (String × Location)) : Prop where
  sorted : Members.Sorted found
  lookup_iff (api : String) (l : Location) : Members.lookup api found = some l ↔
    l ∈ seen ∧ apiName? l = some api ∧ api ∉ ignored

/-- Two of the locations that are seen are documents of one API, one seen before the other. -/
structure Doubled (ignored : List String) (seen : List Location) (api : String)
    (first second : Location) : Prop where
  order : [first, second].Sublist seen
  first : apiName? first = some api
  second : apiName? second = some api
  counted : api ∉ ignored

theorem Collected.nil (ignored : List String) : Collected ignored [] [] :=
  ⟨.nil, by simp⟩

/-- A location that is no document changes nothing. -/
theorem Collected.pass (collected : Collected ignored seen found)
    (idle : ∀ api, apiName? l = some api → api ∈ ignored) :
    Collected ignored (seen ++ [l]) found where
  sorted := collected.sorted
  lookup_iff api other := by
    rw [collected.lookup_iff, List.mem_append, List.mem_singleton]
    refine ⟨fun ⟨old, known⟩ => ⟨.inl old, known⟩, ?_⟩
    rintro ⟨old | rfl, named, counted⟩
    · exact ⟨old, named, counted⟩
    · exact absurd (idle api named) counted

/-- A document of an API that is not found yet is added. -/
theorem Collected.insert (collected : Collected ignored seen found)
    (named : apiName? l = some api) (counted : api ∉ ignored)
    (absent : Members.lookup api found = none) :
    Collected ignored (seen ++ [l]) (Members.insert api l found) where
  sorted := collected.sorted.insert api l
  lookup_iff other document := by
    rw [Members.lookup_insert, List.mem_append, List.mem_singleton]
    by_cases same : api = other
    · -- Nothing was found under the API, so that no location seen before is a document of it.
      subst same
      rw [if_pos rfl, Option.some.injEq]
      constructor
      · rintro rfl
        exact ⟨.inr rfl, named, counted⟩
      · rintro ⟨old | rfl, known⟩
        · cases absent.symm.trans ((collected.lookup_iff api document).mpr ⟨old, known⟩)
        · rfl
    · rw [if_neg same, collected.lookup_iff]
      refine ⟨fun ⟨old, known⟩ => ⟨.inl old, known⟩, ?_⟩
      rintro ⟨old | rfl, known⟩
      · exact ⟨old, known⟩
      · exact absurd (Option.some.inj (named.symm.trans known.1)) same

/-- One more location is passed over or added, or it is the second document of its API. -/
theorem Collected.step (collected : Collected ignored seen found) (l : Location) :
    (∃ after, addDocument ignored found l = .ok after ∧
      Collected ignored (seen ++ [l]) after) ∨
    ∃ api first, addDocument ignored found l = .error (.duplicate api first l) ∧
      Doubled ignored (seen ++ [l]) api first l := by
  rw [addDocument]
  cases named : apiName? l with
  | none => exact .inl ⟨found, rfl, collected.pass (by simp [named])⟩
  | some api =>
    dsimp only
    by_cases listed : api ∈ ignored
    · rw [if_pos (List.contains_iff_mem.mpr listed)]
      refine .inl ⟨found, rfl, collected.pass fun other same => ?_⟩
      exact Option.some.inj (named.symm.trans same) ▸ listed
    · rw [if_neg (mt List.contains_iff_mem.mp listed)]
      cases held : Members.lookup api found with
      | none => exact .inl ⟨_, rfl, collected.insert named listed held⟩
      | some first =>
        obtain ⟨before, known, counted⟩ := (collected.lookup_iff api first).mp held
        have order : [first, l].Sublist (seen ++ [l]) :=
          (List.singleton_sublist.mpr before).append (.refl [l])
        exact .inr ⟨api, first, rfl, order, known, named, counted⟩

/-- A walk collects the documents among its locations, or ends at the second document of an API. -/
theorem Collected.run (collected : Collected ignored seen found) :
    (∃ all, rest.foldlM (addDocument ignored) found = .ok all ∧
      Collected ignored (seen ++ rest) all) ∨
    ∃ api first second, rest.foldlM (addDocument ignored) found =
        .error (.duplicate api first second) ∧
      Doubled ignored (seen ++ rest) api first second := by
  -- Each step moves the first of the rest to the end of what has been seen.
  induction rest generalizing seen found with
  | nil => exact .inl ⟨found, rfl, by rwa [List.append_nil]⟩
  | cons l rest ih =>
    rw [List.foldlM_cons, List.append_cons]
    rcases collected.step l with ⟨after, added, further⟩ | ⟨api, first, failed, doubled⟩
    · rw [added]
      exact ih further
    · rw [failed]
      refine .inr ⟨api, first, l, rfl, ?_, doubled.first, doubled.second, doubled.counted⟩
      exact doubled.order.trans (List.sublist_append_left ..)

end Collecting

/-! ### Discovery -/

/-- Two documents below a directory have the same API. -/
structure Entry.Clash (e : Entry) (hides : OsString → Bool) (ignored : List String) (api : String)
    (names others : List OsString) : Prop where
  apart : names ≠ others
  first : e.IsDocument hides ignored names api
  second : e.IsDocument hides ignored others api

theorem Entry.Clash.mono {e : Entry} {hides : OsString → Bool} {ignored fewer : List String}
    {names others : List OsString} {api : String} (clash : e.Clash hides ignored api names others)
    (less : fewer ⊆ ignored) : e.Clash hides fewer api names others :=
  ⟨clash.apart, clash.first.mono less, clash.second.mono less⟩

section Discovering

variable {f : Files} {e : Entry} {ignored : List String} {path api : String}
  {l document first second : Location} {names others : List OsString}
  {found : List (String × Location)}

/-- No location is listed twice. -/
theorem Entry.nodup_locations (legal : e.isLegal) (l : Location) : (e.locations l).Nodup := by
  rw [Entry.locations_eq_map_shown]
  exact (e.nodup_shown legal).map l.onward_injective

/-- Two locations that are documents of one API are two documents. -/
theorem Doubled.clash (legal : e.isLegal) (above : e.isDirectory)
    (doubled : Doubled ignored (e.locations l) api first second) :
    ∃ names others, e.Clash isHiddenName ignored api names others ∧
      l.onward names = first ∧ l.onward others = second := by
  have distinct := (Entry.nodup_locations legal l).sublist doubled.order
  have listed := doubled.order.subset
  rw [Entry.locations_eq_map_shown] at listed
  obtain ⟨names, one, rfl⟩ := List.mem_map.mp (listed List.mem_cons_self)
  obtain ⟨others, other, rfl⟩ :=
    List.mem_map.mp (listed (List.mem_cons_of_mem _ List.mem_cons_self))
  refine ⟨names, others, ⟨?_, ?_, ?_⟩, rfl, rfl⟩
  · -- One before the other, and no location is listed twice.
    rintro rfl
    simp at distinct
  · exact (Entry.isDocument_iff legal above l).mpr ⟨one, doubled.first, doubled.counted⟩
  · exact (Entry.isDocument_iff legal above l).mpr ⟨other, doubled.second, doubled.counted⟩

/-- What is collected of a directory is its documents. -/
theorem Collected.lookup_eq_some_iff (legal : e.isLegal) (above : e.isDirectory)
    (collected : Collected ignored (e.locations l) found) :
    Members.lookup api found = some document ↔
      ∃ names, e.IsDocument isHiddenName ignored names api ∧ l.onward names = document := by
  rw [collected.lookup_iff, Entry.locations_eq_map_shown, List.mem_map]
  simp only [Entry.isDocument_iff legal above l]
  constructor
  · rintro ⟨⟨names, listed, rfl⟩, known⟩
    exact ⟨names, ⟨listed, known⟩, rfl⟩
  · rintro ⟨names, ⟨listed, known⟩, rfl⟩
    exact ⟨⟨names, listed, rfl⟩, known⟩

/-- What has been collected at and below a location leads somewhere, and is the document of an API
that is neither ignored nor named like a configuration file. -/
theorem Collected.of_mem (resolves : (f.resolve? l).isSome)
    (collected : Collected ignored (e.locations l) found) (member : (api, document) ∈ found) :
    (f.resolve? document).isSome ∧ apiName? document = some api ∧ api ∉ ignored ∧
      isConfigStem api = false := by
  obtain ⟨listed, named, counted⟩ := (collected.lookup_iff api document).mp
    (Members.lookup_of_mem collected.sorted.nodup_keys member)
  obtain ⟨name, last⟩ := exists_fileName?_of_apiName? named
  obtain ⟨_, _, _, _, own⟩ := (apiName?_eq_some_iff last).mp named
  exact ⟨e.isSome_resolve?_of_mem_locations resolves listed, named, counted, own⟩

/-- Documents that are all collected do not clash. -/
theorem Collected.not_clash (legal : e.isLegal) (above : e.isDirectory)
    (collected : Collected ignored (e.locations l) found) :
    ¬ e.Clash isHiddenName ignored api names others := by
  intro clash
  have one := (collected.lookup_eq_some_iff legal above).mpr ⟨names, clash.first, rfl⟩
  have other := (collected.lookup_eq_some_iff legal above).mpr ⟨others, clash.second, rfl⟩
  exact clash.apart (l.onward_injective (Option.some.inj (one.symm.trans other)))

/-- The documents at and below a path are collected, or two of them have the same API. -/
theorem Files.documents_cases (here : f.entry? path = some e) (ignored : List String) :
    (∃ found, f.documents path ignored = .ok found ∧
      Collected ignored (e.locations path) found) ∨
    ∃ api first second, f.documents path ignored = .error (.duplicate api first second) ∧
      Doubled ignored (e.locations path) api first second := by
  rw [Files.documents, here]
  exact (Collected.nil ignored).run

end Discovering

/-! ### Names that start with a dot -/

/-- Whether a name starts with a dot, and not like what editors leave behind. -/
def isDotted (name : OsString) : Bool :=
  name.startsWith "." && !name.startsWith ".#"

/-- A name that is a text is hidden when it starts with a dot. -/
theorem isHiddenName_ofText (s : String) :
    isHiddenName (OsString.ofText s) = isDotted (OsString.ofText s) := by
  rw [isHiddenName, isDotted, OsString.text?_ofText, OsString.startsWith_ofText,
    OsString.startsWith_ofText]
  rfl

theorem isHiddenName_of_text? {name : OsString} (text : name.text?.isSome) :
    isHiddenName name = isDotted name := by
  obtain ⟨s, text⟩ := Option.isSome_iff_exists.mp text
  obtain rfl := OsString.text?_eq_some_iff.mp text
  exact isHiddenName_ofText s

/-- What is hidden is a text. -/
theorem isDotted_of_isHiddenName {name : OsString} (hidden : isHiddenName name) :
    isDotted name := by
  have text : name.text?.isSome := by
    cases none : name.text? with
    | some => rfl
    | none =>
      rw [isHiddenName, none] at hidden
      cases hidden
  rwa [← isHiddenName_of_text? text]

namespace Entry

mutual

/-- Whether the names of directories that start with a dot are texts. -/
def dotsAreTexts : Entry → Bool
  | .file .. => true
  | .directory entries => dotsAreTextsIn entries

/-- Whether the names among entries and below them that start with a dot are texts, where they are
those of directories. -/
def dotsAreTextsIn : List (OsString × Entry) → Bool
  | [] => true
  | (name, e) :: rest =>
    (!e.isDirectory || !isDotted name || name.text?.isSome) && e.dotsAreTexts &&
      dotsAreTextsIn rest

end

variable {e : Entry} {entries : List (OsString × Entry)} {names others : List OsString}
  {ignored : List String} {api text : String} {written : Int}

theorem dotsAreTexts_directory_iff : (directory entries).dotsAreTexts ↔
    ∀ p ∈ entries, (p.2.isDirectory → isDotted p.1 → p.1.text?.isSome) ∧ p.2.dotsAreTexts := by
  rw [dotsAreTexts]
  induction entries with
  | nil => simp [dotsAreTextsIn]
  | cons p rest ih =>
    rw [dotsAreTextsIn, Bool.and_eq_true, Bool.and_eq_true, ih, List.forall_mem_cons]
    refine and_congr_left fun _ => and_congr_left fun _ => ?_
    cases p.2.isDirectory <;> cases isDotted p.1 <;> simp

/-- The directories above a file that start with a dot have names that are texts. -/
theorem isSome_text?_of_dotted (texts : e.dotsAreTexts)
    (found : e.find? names = some (.file text written)) :
    ∀ name ∈ names.dropLast, isDotted name → name.text?.isSome := by
  induction names generalizing e with
  | nil => simp
  | cons name rest ih =>
    cases e with
    | file => cases found
    | directory entries =>
      obtain ⟨inner, member, below⟩ := Option.bind_eq_some_iff.mp found
      obtain ⟨here, inside⟩ :=
        dotsAreTexts_directory_iff.mp texts _ (Members.mem_of_lookup member)
      cases rest with
      | nil => simp
      | cons second more =>
        -- There is something below the entry of the first name.
        have above : inner.isDirectory := by
          cases inner with
          | file => cases below
          | directory => rfl
        rw [List.dropLast_cons_cons]
        exact List.forall_mem_cons.mpr ⟨here above, ih inside below⟩

/-- Whether names are hidden by their first bytes or by their first characters makes no difference
to what is a document. -/
theorem isDocument_dotted_iff (texts : e.dotsAreTexts) :
    e.IsDocument isDotted ignored names api ↔ e.IsDocument isHiddenName ignored names api := by
  constructor
  · intro document
    refine document.of_shown fun name member => Bool.eq_false_iff.mpr fun hidden => ?_
    exact Bool.eq_false_iff.mp (document.shown name member) (isDotted_of_isHiddenName hidden)
  · intro document
    obtain ⟨_, _, found⟩ := document.file
    obtain ⟨last, isLast, _⟩ := document.exists_last
    refine document.of_shown fun name member => Bool.eq_false_iff.mpr fun dotted => ?_
    have text : name.text?.isSome := by
      rw [← List.dropLast_append_getLast? _ isLast, List.mem_append, List.mem_singleton] at member
      rcases member with above | rfl
      · exact isSome_text?_of_dotted texts found name above dotted
      · rw [OsString.text?_ofText]
        rfl
    rw [← isHiddenName_of_text? text, document.shown name member] at dotted
    cases dotted

theorem clash_dotted_iff (texts : e.dotsAreTexts) :
    e.Clash isDotted ignored api names others ↔ e.Clash isHiddenName ignored api names others := by
  constructor
  · exact fun clash => ⟨clash.apart, (isDocument_dotted_iff texts).mp clash.first,
      (isDocument_dotted_iff texts).mp clash.second⟩
  · exact fun clash => ⟨clash.apart, (isDocument_dotted_iff texts).mpr clash.first,
      (isDocument_dotted_iff texts).mpr clash.second⟩

end Entry

/-- What is found below a directory is its documents, each under the name of its API and in
strictly increasing order of these names, unless two of them have the same API. Then, and only
then, there is an error, which names two such documents. -/
theorem Files.documents_exact {f : Files} {path : String} {entries : List (OsString × Entry)}
    (here : f.entry? path = some (.directory entries))
    (legal : (Entry.directory entries).isLegal)
    (texts : (Entry.directory entries).dotsAreTexts) (ignored : List String) :
    ((∃ api first second, f.documents path ignored = .error (.duplicate api first second)) ↔
      ∃ api names others, (Entry.directory entries).Clash isDotted ignored api names others) ∧
    ((¬ ∃ api names others, (Entry.directory entries).Clash isDotted ignored api names others) →
      ∃ found, f.documents path ignored = .ok found ∧ Members.Sorted found ∧
        ∀ api l, (api, l) ∈ found ↔
          ∃ names, (Entry.directory entries).IsDocument isDotted ignored names api ∧
            l = ⟨path, names⟩) ∧
    ∀ e, f.documents path ignored = .error e →
      ∃ api names others, (Entry.directory entries).Clash isDotted ignored api names others ∧
        e = .duplicate api ⟨path, names⟩ ⟨path, others⟩ := by
  simp only [Entry.isDocument_dotted_iff texts, Entry.clash_dotted_iff texts]
  rcases f.documents_cases here ignored with ⟨found, done, collected⟩ | ⟨api, first, second,
    failed, doubled⟩
  · rw [done]
    have none : ¬ ∃ api names others,
        (Entry.directory entries).Clash isHiddenName ignored api names others :=
      fun ⟨_, _, _, clash⟩ => collected.not_clash legal rfl clash
    refine ⟨⟨fun ⟨_, _, _, same⟩ => (nomatch same), fun some => absurd some none⟩,
      fun _ => ⟨found, rfl, collected.sorted, fun api l => ?_⟩, fun _ same => (nomatch same)⟩
    have listed : (api, l) ∈ found ↔ Members.lookup api found = some l :=
      ⟨Members.lookup_of_mem collected.sorted.nodup_keys, Members.mem_of_lookup⟩
    simp only [eq_comm (a := l)]
    exact listed.trans (collected.lookup_eq_some_iff legal rfl)
  · obtain ⟨names, others, clash, rfl, rfl⟩ := doubled.clash legal rfl
    have some : ∃ api names others,
        (Entry.directory entries).Clash isHiddenName ignored api names others :=
      ⟨api, names, others, clash⟩
    rw [failed]
    refine ⟨⟨fun _ => some, fun _ => ⟨_, _, _, rfl⟩⟩, fun none => absurd some none, ?_⟩
    intro _ same
    exact ⟨api, names, others, clash, (Except.error.inj same).symm⟩

/-- A directory with documents, a hidden directory, a configuration file, a file of an editor and
one whose name is no text. -/
def storedDocuments : Files where
  root := .directory [("apis", .directory [
    ("#catalog.yaml", .file "" 0),
    (".hidden", .directory [("catalog.yaml", .file "" 0)]),
    ("admin", .directory [("audit.yml", .file "" 0), ("legacy.yaml", .file "" 0)]),
    ("catalog.yaml", .file "" 0),
    ("legacy.yml", .file "" 0),
    ("notes.txt", .file "" 0),
    ("ptolemy.staging.yml", .file "" 0),
    (⟨0xFF :: Utf8.encode "zoo.yaml"⟩, .file "" 0)])]

example : storedDocuments.discover "apis" ["legacy"] =
    .ok [("audit", "apis/admin/audit.yml"), ("catalog", "apis/catalog.yaml")] := by
  decide +kernel

/-- When no API is ignored, two of these documents have the same one. -/
theorem Files.documents_exact_stored : ∃ entries,
    storedDocuments.entry? "apis" = some (.directory entries) ∧
      (Entry.directory entries).isLegal ∧ (Entry.directory entries).dotsAreTexts ∧
      ∃ api names others, (Entry.directory entries).Clash isDotted [] api names others := by
  obtain ⟨entries, here, legal, texts⟩ : ∃ entries,
      storedDocuments.entry? "apis" = some (.directory entries) ∧
        (Entry.directory entries).isLegal ∧ (Entry.directory entries).dotsAreTexts :=
    ⟨_, rfl, by decide +kernel, by decide +kernel⟩
  have failed : storedDocuments.documents "apis" [] = .error (.duplicate "legacy"
      ⟨"apis", ["admin", "legacy.yaml"]⟩ ⟨"apis", ["legacy.yml"]⟩) := by decide +kernel
  exact ⟨entries, here, legal, texts,
    (Files.documents_exact here legal texts []).1.mp ⟨_, _, _, failed⟩⟩

/-- A file that is named like a document, in directories whose names do not start with a dot. Its
own name may do so, and need not be a text. -/
structure Entry.IsNamedLikeDocument (e : Entry) (ignored : List String) (names : List OsString)
    (stem : OsString) : Prop where
  file : ∃ text written, e.find? names = some (.file text written)
  named : names.getLast? = some ⟨stem.bytes ++ Utf8.encode ".yaml"⟩ ∨
    names.getLast? = some ⟨stem.bytes ++ Utf8.encode ".yml"⟩
  above : ∀ name ∈ names.dropLast, isDotted name = false
  kept : ∀ name ∈ names.getLast?, name.startsWith "#" = false ∧ name.startsWith ".#" = false
  own : stem ≠ OsString.ofText "ptolemy" ∧ stem.startsWith "ptolemy." = false
  counted : ∀ api ∈ ignored, stem ≠ OsString.ofText api

/-- A name that starts with a dot and is no text. -/
def dottedBytes : OsString := ⟨[0x2E, 0xFF]⟩

/-- Three directories with one file each. -/
def strayDocuments : Files where
  root := .directory [
    ("above", .directory [(dottedBytes, .directory [("shop.yaml", .file "" 0)])]),
    ("bytes", .directory [(⟨0xFF :: Utf8.encode "zoo.yaml"⟩, .file "" 0)]),
    ("dotted", .directory [(".shop.yaml", .file "" 0)])]

/-- Of files that are named like documents, those are not found whose own names start with a dot or
are no texts. Others are found below a name that starts with a dot, if it is no text. -/
theorem Files.documents_stray :
    (∃ e, strayDocuments.entry? "dotted" = some e ∧
      e.IsNamedLikeDocument [] [".shop.yaml"] ".shop" ∧
      strayDocuments.documents "dotted" [] = .ok []) ∧
    (∃ e, strayDocuments.entry? "bytes" = some e ∧
      e.IsNamedLikeDocument [] [⟨0xFF :: Utf8.encode "zoo.yaml"⟩] ⟨0xFF :: Utf8.encode "zoo"⟩ ∧
      strayDocuments.documents "bytes" [] = .ok []) ∧
    ∃ e, strayDocuments.entry? "above" = some e ∧
      ¬ e.IsNamedLikeDocument [] [dottedBytes, "shop.yaml"] "shop" ∧
      strayDocuments.documents "above" [] =
        .ok [("shop", ⟨"above", [dottedBytes, "shop.yaml"]⟩)] := by
  refine ⟨⟨_, rfl, ?_, by decide +kernel⟩, ⟨_, rfl, ?_, by decide +kernel⟩, _, rfl, ?_,
    by decide +kernel⟩
  · exact ⟨⟨_, _, rfl⟩, .inl rfl, by decide +kernel, by decide +kernel, by decide +kernel,
      List.forall_mem_nil _⟩
  · exact ⟨⟨_, _, rfl⟩, .inl rfl, by decide +kernel, by decide +kernel, by decide +kernel,
      List.forall_mem_nil _⟩
  · intro document
    exact absurd (document.above dottedBytes (by decide +kernel)) (by decide +kernel)

end ApiContract
