import ApiContract.Text.Regex
import Mathlib.Data.List.Basic

/-!
# What patterns match

A pattern of items matches a text that is put together from what the items stand for, one after
the other. An engine is lawful if it finds a match whenever there is one, and nothing else, for
every pattern of items that it accepts. Patterns may match a text in several ways; nothing is said
about which of them is found.

The engine at hand is lawful: it reads a pattern back as the characters of its items, and searches
all ways in which these may match.

## Main definitions

* `Regex.Matches` — what the groups of items stand for in a text
* `RegexEngine.Lawful` — an engine that finds what its patterns match

## Main results

* `Regex.readItems_write` — patterns are read back
* `Regex.matches_of_match?`, `Regex.Matches.isSome_match?` — what is found matches, and what
  matches is found
* `Regex.lawful_engine` — the engine at hand is lawful
-/

namespace ApiContract

namespace Regex

/-- An item without a sign of the language, unless it is escaped. -/
def Item.IsPlain : Item → Prop
  | .char c | .maybe c | .others c => isMeta c = false
  | .literal _ => True

/-- What the groups of items stand for in a text that the items match. -/
inductive Matches : List Item → List Char → List (List Char) → Prop
  | nil : Matches [] [] []
  | char (c : Char) {items : List Item} {rest : List Char} {groups : List (List Char)}
      (onward : Matches items rest groups) : Matches (.char c :: items) (c :: rest) groups
  | literal (text : String) {items : List Item} {rest : List Char} {groups : List (List Char)}
      (onward : Matches items rest groups) :
      Matches (.literal text :: items) (text.toList ++ rest) groups
  | missing (c : Char) {items : List Item} {rest : List Char} {groups : List (List Char)}
      (onward : Matches items rest groups) : Matches (.maybe c :: items) rest groups
  | present (c : Char) {items : List Item} {rest : List Char} {groups : List (List Char)}
      (onward : Matches items rest groups) : Matches (.maybe c :: items) (c :: rest) groups
  | others (c : Char) (piece : List Char) {items : List Item} {rest : List Char}
      {groups : List (List Char)} (nonempty : piece ≠ []) (without : c ∉ piece)
      (onward : Matches items rest groups) :
      Matches (.others c :: items) (piece ++ rest) (piece :: groups)

end Regex

/-- An engine that finds what its patterns match. For a pattern that is written from items, if it
is accepted at all, what is found is a match of the whole text with what the groups stand for, and
something is found when there is such a match. -/
structure RegexEngine.Lawful (E : RegexEngine) : Prop where
  sound : ∀ {items : List Regex.Item} {pattern : E.Pattern} {text : String}
    {found : List (Option String)}, (∀ i ∈ items, i.IsPlain) →
    E.compile (Regex.write E.escape items) = .ok pattern → E.captures? pattern text = some found →
    ∃ groups, Regex.Matches items text.toList groups ∧
      found = some text :: groups.map (some ∘ String.ofList)
  complete : ∀ {items : List Regex.Item} {pattern : E.Pattern} {text : String}
    {groups : List (List Char)}, (∀ i ∈ items, i.IsPlain) →
    E.compile (Regex.write E.escape items) = .ok pattern →
    Regex.Matches items text.toList groups → (E.captures? pattern text).isSome

namespace Regex

variable {c : Char} {items : List Item} {text rest taken : List Char}
  {groups : List (List Char)} {next : List Char → Option (List (List Char))}

/-! ### Reading patterns back -/

/-- The characters of an item as the engine at hand writes it. -/
def Item.chars (i : Item) : List Char := (i.write escape).toList

/-- An item by the characters that it is read back as. -/
def Item.expand : Item → List Item
  | .literal text => text.toList.map .char
  | i => [i]

theorem toList_write (items : List Item) :
    (write escape items).toList = '^' :: (items.flatMap Item.chars ++ ['$']) := by
  have chars : (fun i => (Item.write escape i).toList) = Item.chars := rfl
  simp [write, List.flatMap_map, chars]

/-- A character that is no sign is an item, on its own or with the question mark behind it. -/
theorem readItems_cons (plain : isMeta c = false) : readItems (c :: rest) = match rest with
    | '?' :: rest => (readItems rest).map (.maybe c :: ·)
    | rest => (readItems rest).map (.char c :: ·) := by
  rw [readItems.eq_def]
  split
  case h_1 same => cases same
  case h_5 same =>
    cases same
    exact if_neg (Bool.eq_false_iff.mp plain)
  all_goals
    rename_i same
    cases same
    cases plain

theorem readItems_escapeChar (c : Char) (follows : rest.head? ≠ some '?') :
    readItems (escapeChar c ++ rest) = (readItems rest).map (.char c :: ·) := by
  rw [escapeChar]
  split
  · rfl
  · rename_i plain
    rw [List.singleton_append, readItems_cons (by simpa using plain)]
    split
    · cases follows rfl
    · rfl

theorem head?_escapeChar_ne (c : Char) : (escapeChar c ++ rest).head? ≠ some '?' := by
  rw [escapeChar]
  split
  · simp
  · rename_i plain
    rintro ⟨rfl⟩
    exact plain rfl

theorem head?_flatMap_escapeChar_ne (text : List Char) (follows : rest.head? ≠ some '?') :
    (text.flatMap escapeChar ++ rest).head? ≠ some '?' := by
  cases text with
  | nil => exact follows
  | cons c more =>
    rw [List.flatMap_cons, List.append_assoc]
    exact head?_escapeChar_ne c

theorem readItems_flatMap_escapeChar (text : List Char) (follows : rest.head? ≠ some '?') :
    readItems (text.flatMap escapeChar ++ rest) = (readItems rest).map (text.map .char ++ ·) := by
  induction text with
  | nil => simp
  | cons c more ih =>
    rw [List.flatMap_cons, List.append_assoc,
      readItems_escapeChar c (head?_flatMap_escapeChar_ne more follows), ih, Option.map_map]
    rfl

variable {i : Item}

theorem chars_literal (text : String) :
    (Item.literal text).chars = text.toList.flatMap escapeChar := by
  rw [Item.chars, Item.write, escape, String.toList_ofList]

theorem chars_char (c : Char) : (Item.char c).chars = [c] := by
  simp [Item.chars, Item.write]

theorem chars_maybe (c : Char) : (Item.maybe c).chars = [c, '?'] := by
  simp [Item.chars, Item.write]

theorem chars_others (c : Char) :
    (Item.others c).chars = ['(', '[', '^', c, ']', '+', ')'] := by
  simp [Item.chars, Item.write]

/-- No item begins with a question mark, so that none is read into the one before it. -/
theorem head?_chars_ne (plain : i.IsPlain) (follows : rest.head? ≠ some '?') :
    (i.chars ++ rest).head? ≠ some '?' := by
  cases i with
  | literal text =>
    rw [chars_literal]
    exact head?_flatMap_escapeChar_ne _ follows
  | char c =>
    rw [chars_char]
    rintro ⟨rfl⟩
    cases plain
  | maybe c =>
    rw [chars_maybe]
    rintro ⟨rfl⟩
    cases plain
  | others c =>
    rw [chars_others]
    rintro ⟨⟩

theorem head?_flatMap_chars_ne (plain : ∀ i ∈ items, i.IsPlain) :
    (items.flatMap Item.chars ++ ['$']).head? ≠ some '?' := by
  induction items with
  | nil => decide
  | cons i more ih =>
    rw [List.forall_mem_cons] at plain
    rw [List.flatMap_cons, List.append_assoc]
    exact head?_chars_ne plain.1 (ih plain.2)

theorem readItems_chars (plain : i.IsPlain) (follows : rest.head? ≠ some '?') :
    readItems (i.chars ++ rest) = (readItems rest).map (i.expand ++ ·) := by
  cases i with
  | literal text =>
    rw [chars_literal, readItems_flatMap_escapeChar _ follows]
    rfl
  | char c =>
    rw [chars_char, List.singleton_append, readItems_cons plain]
    split
    · cases follows rfl
    · rfl
  | maybe c =>
    rw [chars_maybe, List.cons_append, readItems_cons plain]
    rfl
  | others c =>
    rw [chars_others]
    rfl

/-- A pattern is read back as the characters of its items. -/
theorem readItems_write (plain : ∀ i ∈ items, i.IsPlain) :
    readItems (items.flatMap Item.chars ++ ['$']) = some (items.flatMap Item.expand) := by
  induction items with
  | nil => rfl
  | cons i more ih =>
    rw [List.forall_mem_cons] at plain
    rw [List.flatMap_cons, List.append_assoc,
      readItems_chars plain.1 (head?_flatMap_chars_ne plain.2), ih plain.2]
    rfl

theorem read_write (plain : ∀ i ∈ items, i.IsPlain) :
    read (write escape items) = .ok (items.flatMap Item.expand) := by
  rw [read, toList_write]
  simp only [readItems_write plain]
  rfl

theorem engine_compile_write (plain : ∀ i ∈ items, i.IsPlain) :
    engine.compile (write engine.escape items) = .ok (items.flatMap Item.expand) :=
  read_write plain

/-! ### Characters in place of texts -/

theorem matches_map_char_iff :
    Matches (taken.map .char ++ items) text groups ↔
      ∃ rest, text = taken ++ rest ∧ Matches items rest groups := by
  induction taken generalizing text with
  | nil => simp
  | cons c more ih =>
    rw [List.map_cons, List.cons_append]
    constructor
    · rintro (_ | ⟨_, fits⟩)
      obtain ⟨rest, rfl, onward⟩ := ih.mp fits
      exact ⟨rest, rfl, onward⟩
    · rintro ⟨rest, rfl, onward⟩
      rw [List.cons_append]
      exact .char c (ih.mpr ⟨rest, rfl, onward⟩)

/-- An item matches the same in front of items that match as much. -/
theorem Matches.cons_mono {behind : List Item}
    (within : ∀ text groups, Matches items text groups → Matches behind text groups)
    (fits : Matches (i :: items) text groups) : Matches (i :: behind) text groups := by
  cases fits with
  | char c onward => exact .char c (within _ _ onward)
  | literal written onward => exact .literal written (within _ _ onward)
  | missing c onward => exact .missing c (within _ _ onward)
  | present c onward => exact .present c (within _ _ onward)
  | others c piece nonempty without onward =>
    exact .others c piece nonempty without (within _ _ onward)

/-- The characters of items match what the items match. -/
theorem matches_expand_iff : Matches (items.flatMap Item.expand) text groups ↔
    Matches items text groups := by
  induction items generalizing text groups with
  | nil => rfl
  | cons i more ih =>
    have same : Matches (i :: more.flatMap Item.expand) text groups ↔
        Matches (i :: more) text groups :=
      ⟨.cons_mono fun _ _ => ih.mp, .cons_mono fun _ _ => ih.mpr⟩
    rw [List.flatMap_cons]
    cases i with
    | literal written =>
      -- Only a text is read back as several items.
      rw [Item.expand, matches_map_char_iff]
      constructor
      · rintro ⟨rest, rfl, onward⟩
        exact .literal written (ih.mp onward)
      · rintro (_ | _ | ⟨_, onward⟩)
        exact ⟨_, rfl, ih.mpr onward⟩
    | char c => exact same
    | maybe c => exact same
    | others c => exact same

/-! ### Searching -/

theorem matches_of_matchOthers? (without : c ∉ taken)
    (sound : ∀ rest groups, next rest = some groups → Matches items rest groups)
    (found : matchOthers? c next taken text = some groups) :
    Matches (.others c :: items) (taken ++ text) groups := by
  induction text generalizing taken with
  | nil => cases found
  | cons d rest ih =>
    rw [matchOthers?] at found
    split at found
    · cases found
    · rename_i other
      have without : c ∉ taken ++ [d] := by
        simpa [without] using Ne.symm other
      rcases Option.or_eq_some_iff.mp found with longer | ⟨_, here⟩
      · simpa using ih without longer
      · obtain ⟨behind, onward, rfl⟩ := Option.map_eq_some_iff.mp here
        rw [List.append_cons]
        exact .others c (taken ++ [d]) (by simp) without (sound rest behind onward)

/-- What is found matches. -/
theorem matches_of_match? (found : match? items text = some groups) :
    Matches items text groups := by
  induction items generalizing text groups with
  | nil =>
    cases text with
    | nil =>
      obtain rfl := Option.some.inj found
      exact .nil
    | cons d rest => cases found
  | cons i more ih =>
    cases i with
    | char c =>
      cases text with
      | nil => cases found
      | cons d rest =>
        rw [match?] at found
        split at found
        · rename_i same
          exact same ▸ .char d (ih found)
        · cases found
    | literal written =>
      rw [match?] at found
      split at found
      · rename_i begins
        obtain ⟨rest, rfl⟩ := List.isPrefixOf_iff_prefix.mp begins
        rw [List.drop_left] at found
        exact .literal written (ih found)
      · cases found
    | maybe c =>
      cases text with
      | nil => exact .missing c (ih found)
      | cons d rest =>
        rw [match?] at found
        rcases Option.or_eq_some_iff.mp found with here | ⟨_, missing⟩
        · split at here
          · rename_i same
            exact same ▸ .present d (ih here)
          · cases here
        · exact .missing c (ih missing)
    | others c =>
      rw [match?] at found
      exact matches_of_matchOthers? List.not_mem_nil (fun _ _ => ih) found

theorem isSome_matchOthers? {piece : List Char} (nonempty : piece ≠ []) (without : c ∉ piece)
    (onward : (next rest).isSome) : (matchOthers? c next taken (piece ++ rest)).isSome := by
  -- The longest pieces are tried first, so that one of the first tries may succeed already.
  induction piece generalizing taken with
  | nil => exact absurd rfl nonempty
  | cons d more ih =>
    rw [List.mem_cons, not_or] at without
    rw [List.cons_append, matchOthers?, if_neg (Ne.symm without.1), Option.isSome_or,
      Bool.or_eq_true]
    cases more with
    | nil => exact .inr (by simpa using onward)
    | cons e behind => exact .inl (ih (List.cons_ne_nil _ _) without.2)

/-- What matches is found. -/
theorem Matches.isSome_match? (fits : Matches items text groups) : (match? items text).isSome := by
  -- On the match: what is found may be another one, and the search has tried this one too.
  induction fits with
  | nil => rfl
  | char c _ ih => rwa [match?, if_pos rfl]
  | literal written _ ih =>
    rwa [match?, if_pos (List.isPrefixOf_iff_prefix.mpr (List.prefix_append _ _)), List.drop_left]
  | @missing c items rest _ _ ih =>
    cases rest with
    | nil => exact ih
    | cons d behind => simp [match?, ih]
  | present c _ ih => simp [match?, ih]
  | others c piece nonempty without _ ih =>
    rw [match?]
    exact isSome_matchOthers? nonempty without ih

/-- The engine at hand finds what its patterns match. -/
theorem lawful_engine : engine.Lawful where
  sound plain compiled found := by
    obtain rfl := Except.ok.inj ((read_write plain).symm.trans compiled)
    obtain ⟨groups, here, rfl⟩ := Option.map_eq_some_iff.mp found
    exact ⟨groups, matches_expand_iff.mp (matches_of_match? here), rfl⟩
  complete plain compiled fits := by
    obtain rfl := Except.ok.inj ((read_write plain).symm.trans compiled)
    refine Option.isSome_map.trans ?_
    exact (matches_expand_iff.mpr fits).isSome_match?

end Regex

end ApiContract
