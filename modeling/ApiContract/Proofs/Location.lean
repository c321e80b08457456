import ApiContract.Location
import ApiContract.Proofs.Text.OsString

/-!
# Paths and locations

The last name of a path tells what is at its end, wherever the path starts. The same is asked of
a location, whose last name need not be a text.

## Main definitions

* `Location.onward` — the location to which names lead from another

## Main results

* `Path.names_join` — the names of joined paths
* `Path.splitName_eq_some_iff` — where a name is cut
* `Path.exists_fileName?_append` — what is added to the last name of a path
* `Location.fileName?_path`, `Location.fileName?_onward` — the last name of a location
-/

namespace ApiContract

/-! ### Paths -/

namespace Path

variable {path name base : String}

theorem names_slash (front rest : String) :
    names (front ++ "/" ++ rest) = names front ++ names rest := by
  have chars : (front ++ "/" ++ rest).toList = front.toList ++ '/' :: rest.toList := by simp
  rw [names, Text.split, chars, Text.pieces_append_separator rfl, List.map_append,
    List.filter_append]
  rfl

/-- The names of a path below another are the names of both. -/
theorem names_join (relative : isAbsolute path = false) :
    names (join base path) = names base ++ names path := by
  rw [join, relative, Bool.false_or]
  by_cases blank : base.isEmpty
  · obtain rfl := String.isEmpty_iff.mp blank
    rfl
  · rw [if_neg blank]
    by_cases closed : Text.endsWith base "/"
    · obtain ⟨front, cut⟩ := Option.isSome_iff_exists.mp closed
      obtain rfl := Text.stripEnd?_eq_some_iff.mp cut
      have front := names_slash front ""
      rw [String.append_empty] at front
      rw [if_pos closed, names_slash, front]
      simp [names, Text.split, Text.pieces]
    · rw [if_neg closed, names_slash]

/-- A name without slash is no absolute path. -/
theorem isAbsolute_of_plain (plain : '/' ∉ name.toList) : isAbsolute name = false := by
  rw [Bool.eq_false_iff]
  intro absolute
  obtain ⟨rest, cut⟩ := Option.isSome_iff_exists.mp absolute
  rw [Text.stripStart?_eq_some_iff.mp cut, String.toList_append] at plain
  exact plain (List.mem_append_left _ (by decide))

/-- A name without slash is the only one of its path, unless it is passed over. -/
theorem names_of_plain (plain : '/' ∉ name.toList) (counts : ¬ (name = "" ∨ name = ".")) :
    names name = [name] := by
  rw [names, Text.split, Text.pieces_plain (Text.beq_eq_false_of_not_mem plain)]
  simpa using counts

/-- What has no slash in it is added to the last name of a path, if that makes none of the names
that are passed over or lead upwards. -/
theorem exists_fileName?_append (path : String) {tail : String} (plain : '/' ∉ tail.toList)
    (kept : ∀ front : String, ∀ idle ∈ ["", ".", ".."], front ++ tail ≠ idle) :
    ∃ front, fileName? (path ++ tail) = some (front ++ tail) := by
  obtain ⟨before, last, _, cut⟩ :=
    Text.exists_pieces_append_plain (· == '/') path.toList
      (Text.beq_eq_false_of_not_mem plain)
  refine ⟨String.ofList last, ?_⟩
  have kept := kept (String.ofList last)
  have pieces : Text.split (path ++ tail) '/' =
      before.map String.ofList ++ [String.ofList last ++ tail] := by
    rw [Text.split, String.toList_append, cut, List.map_append, List.map_singleton]
    congr 2
    apply String.toList_injective
    simp
  have counts : [String.ofList last ++ tail].filter (fun name => name ≠ "" && name ≠ ".") =
      [String.ofList last ++ tail] :=
    List.filter_eq_self.mpr fun name member => by
      rw [List.mem_singleton.mp member]
      exact Bool.and_eq_true_iff.mpr
        ⟨decide_eq_true (kept "" (by decide)), decide_eq_true (kept "." (by decide))⟩
  rw [fileName?, Path.names, pieces, List.filter_append, counts, List.getLast?_concat]
  exact if_pos (by simpa using kept ".." (by decide))

/-- A name is cut before its last dot, if there is something before it. -/
theorem splitName_eq_some_iff {stem extension : String} :
    splitName name = (stem, some extension) ↔
      name = stem ++ "." ++ extension ∧ stem ≠ "" ∧ '.' ∉ extension.toList := by
  have cut : ∀ front last : String, '.' ∉ last.toList →
      Text.split (front ++ "." ++ last) '.' = Text.split front '.' ++ [last] :=
    fun front last => Text.split_append_last
  constructor
  · intro parts
    rw [splitName] at parts
    split at parts
    · rename_i last before more reversed
      have whole : Text.split name '.' = (before :: more).reverse ++ [last] := by
        rw [← List.reverse_cons, ← reversed, List.reverse_reverse]
      dsimp only at parts
      split at parts
      · cases (Prod.mk.inj parts).2
      · rename_i named
        obtain ⟨rfl, same⟩ := Prod.mk.inj parts
        obtain rfl := Option.some.inj same
        have plain : ∀ piece ∈ (before :: more).reverse ++ [last], '.' ∉ piece.toList :=
          fun piece member => Text.not_mem_of_mem_split (whole ▸ member)
        have own := plain last (by simp)
        refine ⟨?_, by simpa using named, own⟩
        have front : Text.split (Text.join "." (before :: more).reverse) '.' =
            (before :: more).reverse :=
          Text.split_join (by simp) fun piece member => plain piece (List.mem_append_left _ member)
        -- Both sides are cut into the same pieces, and these are joined to either.
        have again := cut (Text.join "." (before :: more).reverse) last own
        rw [front, ← whole] at again
        have joined := Text.join_split (Text.join "." (before :: more).reverse ++ "." ++ last) '.'
        rw [again] at joined
        exact (Text.join_split name '.').symm.trans joined
    · cases (Prod.mk.inj parts).2
  · rintro ⟨rfl, named, plain⟩
    rw [splitName, cut stem extension plain, List.reverse_append, List.reverse_singleton,
      List.singleton_append]
    cases parts : (Text.split stem '.').reverse with
    | nil =>
      rw [List.reverse_eq_nil_iff, Text.split, List.map_eq_nil_iff] at parts
      exact absurd parts (Text.pieces_ne_nil _ _)
    | cons before more =>
      have joined : Text.join "." (before :: more).reverse = stem := by
        rw [← parts, List.reverse_reverse]
        exact Text.join_split stem '.'
      simp only [joined, String.isEmpty_iff, named, if_false]

/-- A path ends as the path does that is put below another. -/
theorem exists_join_append (base front tail : String) :
    ∃ longer, join base (front ++ tail) = longer ++ tail := by
  rw [join]
  split
  · exact ⟨front, rfl⟩
  · split
    · exact ⟨base ++ front, (String.append_assoc ..).symm⟩
    · exact ⟨base ++ "/" ++ front, (String.append_assoc ..).symm⟩

end Path

/-! ### Locations -/

namespace Location

variable {l : Location} {name : OsString}

/-- A path has its last name as a location. -/
theorem fileName?_path (path : String) :
    ({ path } : Location).fileName? = (Path.fileName? path).map OsString.ofText := by
  rw [fileName?, steps, List.append_nil, List.getLast?_map, Path.fileName?]
  cases (Path.names path).getLast? with
  | none => rfl
  | some last =>
    by_cases up : last = ".."
    · simp [Option.filter, up]
    · simp [Option.filter, up]

/-- The location to which names lead from another. -/
def onward (l : Location) (names : List OsString) : Location :=
  { l with names := l.names ++ names }

theorem onward_injective (l : Location) : Function.Injective l.onward := fun _ _ same =>
  List.append_cancel_left (Location.mk.inj same).2

/-- The last of the names that lead on is the name of the location. -/
theorem fileName?_onward {names : List OsString} (last : names.getLast? = some name)
    (down : name ≠ OsString.ofText "..") : (l.onward names).fileName? = some name := by
  rw [fileName?, steps, onward, List.getLast?_append, List.getLast?_append, last]
  simpa using down

end Location

end ApiContract
