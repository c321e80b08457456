import ApiContract.Text.Blank

/-!
# What is left of a trimmed text

## Main definitions

* `Text.Blanks`, `Text.Trimmed` — characters that are all blank, and such without a blank at
  either end

## Main results

* `Text.trimChars_append`, `Text.exists_trimChars` — a text is what is left of it with blanks
  around it
* `Text.splitOnce_eq_some_iff` — the parts before and after the first separator
-/

namespace ApiContract.Text

/-- All characters are blank. -/
def Blanks (cs : List Char) : Prop := ∀ c ∈ cs, isBlank c

/-- There is no blank at either end. -/
structure Trimmed (cs : List Char) : Prop where
  first : ∀ c ∈ cs.head?, isBlank c = false
  last : ∀ c ∈ cs.getLast?, isBlank c = false

variable {cs lead trail rest : List Char}

theorem Blanks.nil : Blanks [] := by simp [Blanks]

theorem Blanks.append (left : Blanks cs) (right : Blanks rest) : Blanks (cs ++ rest) := by
  intro c member
  exact (List.mem_append.mp member).elim (left c) (right c)

theorem Blanks.reverse (blank : Blanks cs) : Blanks cs.reverse :=
  fun c member => blank c (List.mem_reverse.mp member)

theorem Trimmed.reverse (trimmed : Trimmed cs) : Trimmed cs.reverse where
  first c member := trimmed.last c (List.head?_reverse ▸ member)
  last c member := trimmed.first c (List.getLast?_reverse ▸ member)

/-- Blanks in front of what begins with no blank are dropped, and nothing else is. -/
theorem dropWhile_append (blank : Blanks lead) (first : ∀ c ∈ rest.head?, isBlank c = false) :
    (lead ++ rest).dropWhile isBlank = rest := by
  rw [List.dropWhile_append_of_pos blank]
  cases rest with
  | nil => rfl
  | cons c more => rw [List.dropWhile_cons, if_neg (by simp [first c rfl])]

theorem head?_dropWhile {c : Char} (member : c ∈ (cs.dropWhile isBlank).head?) :
    isBlank c = false := by
  have kept := List.head?_dropWhile_not isBlank cs
  rw [Option.mem_def.mp member] at kept
  exact kept

/-- What has no blank at either end is left of itself with blanks around it. -/
theorem trimChars_append (before : Blanks lead) (trimmed : Trimmed cs) (after : Blanks trail) :
    trimChars (lead ++ cs ++ trail) = cs := by
  cases cs with
  | nil =>
    have gone : (lead ++ trail ++ []).dropWhile isBlank = [] :=
      dropWhile_append (before.append after) (by simp)
    rw [List.append_nil] at gone
    rw [List.append_nil, trimChars, gone]
    rfl
  | cons c more =>
    have front : (lead ++ (c :: more) ++ trail).dropWhile isBlank = (c :: more) ++ trail := by
      rw [List.append_assoc]
      exact dropWhile_append before fun d member => trimmed.first d (by simpa using member)
    rw [trimChars, front, List.reverse_append,
      dropWhile_append after.reverse trimmed.reverse.first, List.reverse_reverse]

/-- A text is what is left of it with blanks around it. -/
theorem exists_trimChars (cs : List Char) : ∃ lead trail, Blanks lead ∧ Blanks trail ∧
    cs = lead ++ trimChars cs ++ trail ∧ Trimmed (trimChars cs) := by
  have parts : cs = cs.takeWhile isBlank ++ cs.dropWhile isBlank :=
    List.takeWhile_append_dropWhile.symm
  have blank : ∀ xs : List Char, Blanks (xs.takeWhile isBlank) := fun xs c member =>
    List.all_eq_true.mp List.all_takeWhile c member
  -- What is left after the blanks in front is cut in the same way from behind.
  have ending : cs.dropWhile isBlank =
      trimChars cs ++ ((cs.dropWhile isBlank).reverse.takeWhile isBlank).reverse := by
    rw [trimChars, ← List.reverse_append, List.takeWhile_append_dropWhile, List.reverse_reverse]
  refine ⟨cs.takeWhile isBlank, _, blank cs, (blank (cs.dropWhile isBlank).reverse).reverse,
    ?_, ?_, ?_⟩
  · rw [List.append_assoc, ← ending]
    exact parts
  · intro c member
    -- What is left begins as the text without the blanks in front does, unless nothing is left.
    have begins : (trimChars cs).head? = (cs.dropWhile isBlank).head? := by
      rw [ending]
      cases left : trimChars cs with
      | nil => rw [left] at member; cases member
      | cons d more => rfl
    exact head?_dropWhile (begins ▸ member)
  · intro c member
    rw [trimChars, List.getLast?_reverse] at member
    exact head?_dropWhile member

/-- What is before and what is after the first separator. -/
theorem splitOnce_eq_some_iff {s before after : String} {c : Char} :
    splitOnce s c = some (before, after) ↔
      s.toList = before.toList ++ c :: after.toList ∧ c ∉ before.toList := by
  have plain : ∀ xs : List Char, c ∉ xs → ∀ a ∈ xs, (!(a == c)) = true := by
    intro xs absent a member
    simp only [Bool.not_eq_true', beq_eq_false_iff_ne]
    rintro rfl
    exact absent member
  have cut : ∀ cs first last : List Char, breakOnce (· == c) cs = some (first, last) ↔
      cs = first ++ c :: last ∧ c ∉ first := by
    intro cs first last
    constructor
    · intro cut
      rw [breakOnce] at cut
      have parts : cs = cs.takeWhile (fun a => !(a == c)) ++ cs.dropWhile (fun a => !(a == c)) :=
        List.takeWhile_append_dropWhile.symm
      split at cut
      · cases cut
      · rename_i d rest found
        obtain ⟨rfl, rfl⟩ := Prod.mk.inj (Option.some.inj cut)
        have kept := List.head?_dropWhile_not (fun a => !(a == c)) cs
        rw [found] at kept
        have same : d = c := by simpa using kept
        rw [found, same] at parts
        refine ⟨parts, fun member => ?_⟩
        simpa using List.all_eq_true.mp List.all_takeWhile c member
    · rintro ⟨rfl, absent⟩
      rw [breakOnce, List.takeWhile_append_of_pos (plain first absent),
        List.dropWhile_append_of_pos (plain first absent)]
      simp
  rw [splitOnce, Option.map_eq_some_iff]
  constructor
  · rintro ⟨⟨first, last⟩, found, same⟩
    obtain ⟨rfl, rfl⟩ := Prod.mk.inj same
    simpa using (cut _ _ _).mp found
  · intro parts
    exact ⟨(before.toList, after.toList), (cut _ _ _).mpr parts, by simp⟩

end ApiContract.Text
