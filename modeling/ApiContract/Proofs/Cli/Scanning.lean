import ApiContract.Cli.Run
import ApiContract.Proofs.Contract.Discovery

/-!
# The configuration file among the documents

A service may be configured by a file that is kept among its documents. Files are read by their
paths, but left out of the documents by their names: the API that the configuration file would
have is ignored, and so are all names that start like that of the default configuration file.
Where both are told apart, no other document is left out.

## Main definitions

* `ServeArguments.configPath`, `ServeArguments.environmentName?` — which files are read
* `ServeArguments.readConfig` — the configuration before the arguments are laid over it
* `ServeArguments.SetsApart` — what is found leaves out the configuration, and nothing else

## Main results

* `ServeArguments.loadConfig_eq` — what the arguments change
* `Path.stem?_variant` — the stem of the file for an environment
* `Files.stem?_of_place` — a document has the stem of every path that leads to it
* `ServeArguments.loadConfig_setsApart` — the configuration is set apart from the documents
-/

namespace ApiContract

/-! ### The files of a configuration -/

namespace Path

variable {path name extension : String}

theorem not_mem_of_fileName? (named : fileName? path = some name) : '/' ∉ name.toList := by
  obtain ⟨last, _⟩ := Option.filter_eq_some_iff.mp named
  exact Text.not_mem_of_mem_split (List.mem_filter.mp (List.mem_of_getLast? last)).1

/-- The last name of a path with an extension is cut before it. -/
theorem exists_of_extension? (has : extension? path = some extension) :
    ∃ stem, stem? path = some stem ∧ fileName? path = some (stem ++ "." ++ extension) ∧
      stem ≠ "" ∧ '.' ∉ extension.toList := by
  obtain ⟨name, named, has⟩ := Option.bind_eq_some_iff.mp has
  obtain ⟨whole, filled, plain⟩ := splitName_eq_some_iff.mp (Prod.ext rfl has)
  exact ⟨_, by rw [stem?, named, Option.map_some], whole ▸ named, filled, plain⟩

/-- A path gets the last name that it is given. -/
theorem fileName?_withFileName (counts : ¬ (name = "" ∨ name = ".")) (own : name ≠ "..")
    (plain : '/' ∉ name.toList) (path : String) :
    fileName? (withFileName path name) = some name := by
  have joined : ∀ base, fileName? (join base name) = some name := by
    intro base
    rw [fileName?, names_join (isAbsolute_of_plain plain), names_of_plain plain counts,
      List.getLast?_concat]
    simpa using own
  rw [withFileName]
  split <;> exact joined _

/-- What follows the last dot of a name is known by the name. -/
theorem extension_unique {front other last : String} (dotless : '.' ∉ extension.toList)
    (plain : '.' ∉ last.toList) (same : front ++ "." ++ extension = other ++ "." ++ last) :
    extension = last := by
  have left : Text.split (front ++ "." ++ extension) '.' = Text.split front '.' ++ [extension] :=
    Text.split_append_last dotless
  have right : Text.split (other ++ "." ++ last) '.' = Text.split other '.' ++ [last] :=
    Text.split_append_last plain
  rw [same, right] at left
  exact (List.singleton_inj.mp (List.append_inj' left rfl).2).symm

/-- A name that has an extension is none of those that are passed over or lead upwards. -/
theorem ne_of_extension (filled : extension ≠ "") (dotless : '.' ∉ extension.toList)
    (front : String) : ∀ idle ∈ ["", ".", ".."], front ++ "." ++ extension ≠ idle := by
  intro idle among same
  simp only [List.mem_cons, List.not_mem_nil, or_false] at among
  rcases among with rfl | rfl | rfl
  · simp at same
  · have dot : "." = "" ++ "." ++ "" := by decide
    exact filled (extension_unique dotless (by decide) (same.trans dot))
  · have dots : ".." = "." ++ "." ++ "" := by decide
    exact filled (extension_unique dotless (by decide) (same.trans dots))

theorem variant_eq {stem env : String} (own : stem? path = some stem)
    (has : extension? path = some extension) : variant path env =
      withFileName path (stem ++ "." ++ env ++ "." ++ extension) := by
  rw [variant, own, has]
  rfl

/-- The file for an environment has the stem of the file beside it and the environment. -/
theorem stem?_variant (has : extension? path = some extension) (filled : extension ≠ "")
    {env : String} (plain : '/' ∉ env.toList) : ∃ stem, stem? path = some stem ∧
      stem? (variant path env) = some (stem ++ "." ++ env) := by
  obtain ⟨stem, own, named, _, dotless⟩ := exists_of_extension? has
  have whole := not_mem_of_fileName? named
  have ne := ne_of_extension filled dotless (stem ++ "." ++ env)
  have counts := not_or.mpr ⟨ne "" (by decide), ne "." (by decide)⟩
  have whole : '/' ∉ (stem ++ "." ++ env ++ "." ++ extension).toList := by
    simp only [String.toList_append, List.mem_append, not_or] at whole ⊢
    exact ⟨⟨⟨whole.1, plain⟩, whole.1.2⟩, whole.2⟩
  have cut : splitName (stem ++ "." ++ env ++ "." ++ extension) =
      (stem ++ "." ++ env, some extension) :=
    splitName_eq_some_iff.mpr ⟨rfl, by simp, dotless⟩
  refine ⟨stem, own, ?_⟩
  rw [stem?, variant_eq own has, fileName?_withFileName counts (ne ".." (by decide)) whole,
    Option.map_some, cut]

/-- The file for an environment ends as the file beside it, whatever the environment. -/
theorem exists_fileName?_variant (has : extension? path = some extension)
    (filled : extension ≠ "") (env : String) :
    ∃ front, fileName? (variant path env) = some (front ++ "." ++ extension) := by
  obtain ⟨stem, own, named, _, dotless⟩ := exists_of_extension? has
  have whole := not_mem_of_fileName? named
  have assoc : ∀ front, front ++ "." ++ extension = front ++ ("." ++ extension) :=
    fun front => String.append_assoc
  obtain ⟨longer, ends⟩ : ∃ longer, variant path env = longer ++ ("." ++ extension) := by
    rw [variant_eq own has, assoc, withFileName]
    split <;> exact exists_join_append ..
  have plain : '/' ∉ ("." ++ extension).toList := by
    simp only [String.toList_append, List.mem_append, not_or] at whole ⊢
    exact ⟨whole.1.2, whole.2⟩
  obtain ⟨front, last⟩ := exists_fileName?_append longer plain fun front =>
    assoc front ▸ ne_of_extension filled dotless front
  exact ⟨front, by rw [ends, last, assoc]⟩

end Path

namespace Files

variable {f : Files} {document l : Location} {api path stem : String} {name : OsString}

/-- A location has the name of every location that leads to the same place. -/
theorem fileName?_of_place {other : OsString} (resolves : (f.resolve? document).isSome)
    (same : f.resolve? document = f.resolve? l) (own : document.fileName? = some name)
    (named : l.fileName? = some other) : name = other := by
  obtain ⟨reached, there⟩ := Option.isSome_iff_exists.mp resolves
  have one := getLast?_of_resolve? there own
  rw [getLast?_of_resolve? (same.symm.trans there) named] at one
  exact (Option.some.inj one).symm

/-- A document has the stem of every path that leads to it. -/
theorem stem?_of_place (named : apiName? document = some api)
    (resolves : (f.resolve? document).isSome) (same : f.resolve? document = f.resolve? path)
    (own : Path.stem? path = some stem) : stem = api := by
  obtain ⟨name, last, rfl⟩ := Option.map_eq_some_iff.mp own
  obtain ⟨other, otherLast, cut⟩ := Option.map_eq_some_iff.mp (stem?_of_apiName? named)
  have last : ({ path } : Location).fileName? = some (OsString.ofText name) := by
    rw [Location.fileName?_path, last, Option.map_some]
  rw [fileName?_of_place resolves same otherLast last, OsString.splitName_ofText] at cut
  exact OsString.ofText_injective cut

/-- A document has the extension of every path that leads to it. -/
theorem extension_of_place {front extension : String} (named : apiName? document = some api)
    (resolves : (f.resolve? document).isSome) (same : f.resolve? document = f.resolve? path)
    (own : Path.fileName? path = some (front ++ "." ++ extension))
    (dotless : '.' ∉ extension.toList) : extension = "yaml" ∨ extension = "yml" := by
  obtain ⟨name, last⟩ := exists_fileName?_of_apiName? named
  obtain ⟨ending, _⟩ := (apiName?_eq_some_iff last).mp named
  have own : ({ path } : Location).fileName? =
      some (OsString.ofText (front ++ "." ++ extension)) := by
    rw [Location.fileName?_path, own, Option.map_some]
  obtain rfl := OsString.ofText_injective (fileName?_of_place resolves same last own)
  rcases ending with yaml | yml
  · have cut : api ++ ".yaml" = api ++ "." ++ "yaml" := by rw [String.append_assoc]; rfl
    exact .inl (Path.extension_unique dotless (by decide) (yaml.trans cut))
  · have cut : api ++ ".yml" = api ++ "." ++ "yml" := by rw [String.append_assoc]; rfl
    exact .inr (Path.extension_unique dotless (by decide) (yml.trans cut))

end Files

namespace ServeArguments

variable {a : ServeArguments} {w : World} {c : Config}

/-- The configuration file. -/
def configPath (a : ServeArguments) : String := a.config.getD defaultConfig

/-- The name of the environment, unless it is blank. -/
def environmentName? (a : ServeArguments) (w : World) : Option String :=
  ((a.env.orElse fun _ => (w.environment.withFile w.files).get? "PTOLEMY_ENV").map
    Text.trim).filter (· ≠ "")

/-- The configuration of files and variables, before the arguments are laid over it. -/
def readConfig (a : ServeArguments) (w : World) : Except ConfigError Config := do
  let l : Loader := { overrides := some "PTOLEMY" }
  let l ← if a.config.isSome then l.withFile w.files a.configPath
    else l.withOptionalFile w.files a.configPath
  let l ← (a.environmentName? w).elim (.ok l) fun env =>
    l.withOptionalFile w.files (Path.variant a.configPath env)
  l.load (w.environment.withFile w.files)

/-- The arguments say where the documents are and which APIs are ignored. The API that the
configuration file would have is one of them. -/
theorem loadConfig_eq (a : ServeArguments) (w : World) : a.loadConfig w =
    (a.readConfig w).map fun c =>
      ({ c with apis := { c.apis with
          path := a.apis.getD c.apis.path
          ignored := c.apis.ignored ++ a.ignored ++ (a.config.bind Path.stem?).toList
          force := c.apis.force || a.force } }, w.environment.withFile w.files) := by
  have variant : ∀ l : Loader, l.withVariant w.files a.configPath
      (a.env.orElse fun _ => (w.environment.withFile w.files).get? "PTOLEMY_ENV") =
        (a.environmentName? w).elim (.ok l) fun env =>
          l.withOptionalFile w.files (Path.variant a.configPath env) := by
    intro l
    rw [Loader.withVariant, ← environmentName?]
    cases a.environmentName? w <;> rfl
  rw [loadConfig, readConfig, ← configPath]
  by_cases asked : a.config.isSome
  · rw [if_pos asked, if_pos asked]
    refine bind_map rfl fun l => bind_map (variant l) fun l => ?_
    cases l.load (w.environment.withFile w.files) <;> rfl
  · rw [if_neg asked, if_neg asked]
    refine bind_map rfl fun l => bind_map (variant l) fun l => ?_
    cases l.load (w.environment.withFile w.files) <;> rfl

/-- A document that has been read has the extension of a format. -/
theorem exists_extension?_of_withFile {l l' : Loader} {files : Files} {path : String}
    (taken : l.withFile files path = .ok l') :
    ∃ extension, Path.extension? path = some extension ∧ extension ≠ "" := by
  rw [Loader.withFile] at taken
  split at taken
  · cases taken
  · split at taken
    · split at taken
      · rename_i extension has
        obtain ⟨j, layer, _⟩ := bind_eq_ok.mp taken
        refine ⟨extension, has, ?_⟩
        rintro rfl
        cases layer
      · cases taken
    · cases taken

/-- A configuration file that can be read has an extension, and so has the default one. -/
theorem exists_extension?_configPath (read : a.readConfig w = .ok c) :
    ∃ extension, Path.extension? a.configPath = some extension ∧ extension ≠ "" := by
  rw [configPath]
  cases asked : a.config with
  | none => exact ⟨"toml", by decide +kernel, by decide⟩
  | some path =>
    rw [readConfig, configPath, asked] at read
    obtain ⟨l, taken, _⟩ := bind_eq_ok.mp read
    exact exists_extension?_of_withFile taken

/-- The API of the configuration file is ignored, or has the name of the default one. -/
theorem stem?_configPath {stem : String} (own : Path.stem? a.configPath = some stem) :
    a.config.bind Path.stem? = some stem ∨ stem = "ptolemy" := by
  rw [configPath] at own
  cases asked : a.config with
  | none =>
    rw [asked, Option.getD_none] at own
    have default : Path.stem? defaultConfig = some "ptolemy" := by decide +kernel
    exact .inr (Option.some.inj (own.symm.trans default))
  | some path =>
    rw [asked, Option.getD_some] at own
    exact .inl own

/-- What is found below a directory leaves out the configuration, and no document beside it that
has another API. -/
structure SetsApart (a : ServeArguments) (w : World) (directory : String) (e : Entry)
    (found : List (String × Location)) : Prop where
  /-- No document is the configuration file. -/
  config : ∀ api document, (api, document) ∈ found →
    w.files.resolve? document ≠ w.files.resolve? a.configPath
  /-- None is the file for an environment beside a configuration file that has another extension
  than documents, or is named like the default one. -/
  variant : ∀ env ∈ a.environmentName? w,
    Path.extension? a.configPath ∉ [some "yaml", some "yml"] ∨
        '/' ∉ env.toList ∧ (Path.stem? a.configPath).any isConfigStem →
      ∀ api document, (api, document) ∈ found →
        w.files.resolve? document ≠ w.files.resolve? (Path.variant a.configPath env)
  /-- Every other document is found, unless it has the API of the configuration file. -/
  others : ∀ names api, e.IsDocument isHiddenName [] names api →
    a.config.bind Path.stem? ≠ some api →
    (∀ env ∈ a.environmentName? w, w.files.resolve? ⟨directory, names⟩ ≠
      w.files.resolve? (Path.variant a.configPath env)) →
    (api, ⟨directory, names⟩) ∈ found

/-- Documents that are found without the API of the configuration file are set apart from it. -/
theorem setsApart_of_collected (read : a.readConfig w = .ok c) {directory : String} {e : Entry}
    (here : w.files.entry? directory = some e) (legal : e.isLegal) (above : e.isDirectory)
    {found : List (String × Location)}
    (collected : Collected (a.config.bind Path.stem?).toList (e.locations directory) found) :
    a.SetsApart w directory e found := by
  have leads : (w.files.resolve? directory).isSome := by
    obtain ⟨reached, resolved, _⟩ := Option.bind_eq_some_iff.mp here
    rw [resolved]
    rfl
  obtain ⟨extension, has, filled⟩ := exists_extension?_configPath read
  obtain ⟨stem, own, _, _, dotless⟩ := Path.exists_of_extension? has
  refine ⟨fun api document member same => ?_, ?_, ?_⟩
  · -- The API of the document would be the stem of the configuration file.
    obtain ⟨resolves, named, counted, config⟩ := collected.of_mem leads member
    obtain rfl := Files.stem?_of_place named resolves same own
    rcases stem?_configPath own with ignored | rfl
    · exact counted (by simp [ignored])
    · exact absurd config (by decide)
  · rintro env _ (foreign | ⟨plain, config⟩) api document member same
    · -- The file for the environment has the extension of the file beside it.
      obtain ⟨resolves, named, _⟩ := collected.of_mem leads member
      obtain ⟨front, last⟩ := Path.exists_fileName?_variant has filled env
      have documents := Files.extension_of_place named resolves same last dotless
      simp only [has, List.mem_cons, Option.some.injEq, List.not_mem_nil, or_false] at foreign
      exact foreign documents
    · -- Its stem starts like that of the default, as no API does.
      obtain ⟨resolves, named, _, other⟩ := collected.of_mem leads member
      obtain ⟨stem', own', variant⟩ := Path.stem?_variant has filled plain
      rw [own', Option.any_some] at config
      obtain rfl := Files.stem?_of_place named resolves same variant
      rw [isConfigStem_append config env] at other
      cases other
  · intro names api document counted _
    refine Members.mem_of_lookup ((collected.lookup_eq_some_iff legal above).mpr
      ⟨names, ?_, rfl⟩)
    exact { document with counted := by simpa using counted }

/-- With nothing else to be ignored, the documents below a directory are found without the
configuration, unless two of them have the same API. -/
theorem loadConfig_setsApart (read : a.readConfig w = .ok c) (unset : c.apis.ignored = [])
    (unasked : a.ignored = []) {directory : String} {entries : List (OsString × Entry)}
    (here : w.files.entry? directory = some (.directory entries))
    (legal : (Entry.directory entries).isLegal) :
    ∃ config vars, a.loadConfig w = .ok (config, vars) ∧
      ((∃ found, w.files.documents directory config.apis.ignored = .ok found ∧
          a.SetsApart w directory (.directory entries) found) ∨
        ∃ api names others, (Entry.directory entries).Clash isHiddenName [] api names others ∧
          a.config.bind Path.stem? ≠ some api ∧
          w.files.documents directory config.apis.ignored =
            .error (.duplicate api ⟨directory, names⟩ ⟨directory, others⟩)) := by
  have loaded := a.loadConfig_eq w
  rw [read] at loaded
  refine ⟨_, _, loaded, ?_⟩
  dsimp only
  rw [unset, unasked, List.nil_append, List.nil_append]
  rcases w.files.documents_cases here (a.config.bind Path.stem?).toList with
    ⟨found, done, collected⟩ | ⟨api, first, second, failed, doubled⟩
  · exact .inl ⟨found, done, setsApart_of_collected read here legal rfl collected⟩
  · obtain ⟨names, others, clash, rfl, rfl⟩ := doubled.clash legal rfl
    have clash' := clash.mono (List.nil_subset _)
    exact .inr ⟨api, names, others, clash', by simpa using doubled.counted, failed⟩

/-- A configuration among the documents of a directory, and one elsewhere. -/
def shared : World where
  files := { root := .directory [
    ("apis", .directory [
      ("orders.yaml", .file "" 0),
      ("ptolemy.staging.yaml", .file "" 0),
      ("ptolemy.yaml", .file "" 0),
      ("settings.yaml", .file "" 0)]),
    ("conf", .directory [("settings.json", .file "{}" 0)])] }

/-- The configuration is read from the files among the documents. -/
def staged : ServeArguments := { config := some "apis/ptolemy.yaml", env := some "staging" }

/-- The configuration is read from the file elsewhere. -/
def separate : ServeArguments := { config := some "conf/settings.json" }

theorem exists_readConfig {ignored : List String}
    (read : (a.readConfig w).toOption.map (·.apis.ignored) = some ignored) :
    ∃ c, a.readConfig w = .ok c ∧ c.apis.ignored = ignored := by
  obtain ⟨c, given, same⟩ := Option.map_eq_some_iff.mp read
  exact ⟨c, toOption_eq_some.mp given, same⟩

/-- The configuration among the documents and its file for an environment are set apart. -/
theorem loadConfig_setsApart_staged : ∃ c entries,
    staged.readConfig shared = .ok c ∧ c.apis.ignored = [] ∧ staged.ignored = [] ∧
      shared.files.entry? "apis" = some (.directory entries) ∧
      (Entry.directory entries).isLegal ∧
      ∃ config vars found, staged.loadConfig shared = .ok (config, vars) ∧
        shared.files.documents "apis" config.apis.ignored = .ok found ∧
        staged.SetsApart shared "apis" (.directory entries) found := by
  obtain ⟨c, read, unset⟩ : ∃ c, staged.readConfig shared = .ok c ∧ c.apis.ignored = [] :=
    exists_readConfig (by decide +kernel)
  obtain ⟨entries, here, legal⟩ : ∃ entries,
      shared.files.entry? "apis" = some (.directory entries) ∧
        (Entry.directory entries).isLegal := ⟨_, rfl, by decide +kernel⟩
  obtain ⟨config, vars, loaded, outcome⟩ := loadConfig_setsApart read unset rfl here legal
  have ignored : config.apis.ignored = ["ptolemy"] := by
    have same := staged.loadConfig_eq shared
    rw [read, loaded] at same
    obtain ⟨rfl, rfl⟩ := Prod.mk.inj (Except.ok.inj same)
    dsimp only
    rw [unset]
    decide +kernel
  refine ⟨c, entries, read, unset, rfl, here, legal, config, vars, ?_⟩
  rcases outcome with ⟨found, done, apart⟩ | ⟨_, _, _, _, _, failed⟩
  · exact ⟨found, loaded, done, apart⟩
  · have done : (shared.files.documents "apis" ["ptolemy"]).isOk := by decide +kernel
    rw [ignored] at failed
    rw [failed] at done
    cases done

/-- A document that has the name of the configuration file is left out, wherever it is. -/
theorem separate_hides : ∃ c entries config vars,
    separate.readConfig shared = .ok c ∧ c.apis.ignored = [] ∧ separate.ignored = [] ∧
      separate.environmentName? shared = none ∧
      separate.loadConfig shared = .ok (config, vars) ∧
      shared.files.entry? "apis" = some (.directory entries) ∧
      (Entry.directory entries).IsDocument isHiddenName [] ["settings.yaml"] "settings" ∧
      shared.files.resolve? "apis/settings.yaml" ≠ shared.files.resolve? separate.configPath ∧
      shared.files.documents "apis" config.apis.ignored =
        .ok [("orders", ⟨"apis", ["orders.yaml"]⟩)] := by
  obtain ⟨c, read, unset⟩ : ∃ c, separate.readConfig shared = .ok c ∧ c.apis.ignored = [] :=
    exists_readConfig (by decide +kernel)
  have loaded := separate.loadConfig_eq shared
  rw [read] at loaded
  refine ⟨c, _, _, _, read, unset, rfl, by decide +kernel, loaded, rfl, ?_, by decide +kernel, ?_⟩
  · exact ⟨⟨_, _, rfl⟩, .inl rfl, by decide +kernel, by decide +kernel, by decide +kernel,
      List.not_mem_nil⟩
  · dsimp only
    rw [unset]
    decide +kernel

end ServeArguments

end ApiContract
