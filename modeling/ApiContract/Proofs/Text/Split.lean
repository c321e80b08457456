import ApiContract.Text.Blank
import Mathlib.Data.List.Basic

/-!
# Cutting a text and joining it again

A text is cut at every occurrence of a separator. The pieces joined by the separator are the
text again, and pieces without separator that are joined are found again when the text is
cut. The two are inverse, save that nothing is cut into no pieces at all.

## Main results

* `Text.pieces_append_cons` — the first piece ends at the first separator
* `Text.pieces_append_separator`, `Text.exists_pieces_append`, `Text.exists_split_append`,
  `Text.split_append_last` — cutting a text that goes on
* `Text.join_split`, `Text.split_join` — cutting and joining are inverse
* `Text.stripStart?_eq_some_iff`, `Text.stripEnd?_eq_some_iff` — what is left of a text without
  its start or its end
-/

namespace ApiContract.Text

/-! ### Pieces of a list -/

section Pieces

variable {α : Type} {p : α → Bool} {xs rest piece : List α} {c : α}

theorem pieces_ne_nil (p : α → Bool) (xs : List α) : pieces p xs ≠ [] := by
  cases xs with
  | nil => simp [pieces]
  | cons a rest =>
    rw [pieces]
    by_cases separator : p a
    · simp [separator]
    · cases pieces p rest <;> simp [separator]

/-- What is no separator belongs to the first piece. -/
theorem pieces_cons_of_not {a : α} (plain : p a = false) {first : List α}
    {more : List (List α)} (cut : pieces p xs = first :: more) :
    pieces p (a :: xs) = (a :: first) :: more := by
  rw [pieces, cut]
  simp [plain]

/-- A list without separator is one piece. -/
theorem pieces_plain (plain : ∀ a ∈ xs, p a = false) : pieces p xs = [xs] := by
  induction xs with
  | nil => rfl
  | cons a rest ih =>
    have others := ih fun b member => plain b (List.mem_cons_of_mem _ member)
    exact pieces_cons_of_not (plain a List.mem_cons_self) others

/-- The first piece ends at the first separator. -/
theorem pieces_append_cons (plain : ∀ a ∈ xs, p a = false) (separator : p c) :
    pieces p (xs ++ c :: rest) = xs :: pieces p rest := by
  induction xs with
  | nil => simp [pieces, separator]
  | cons a before ih =>
    have others := ih fun b member => plain b (List.mem_cons_of_mem _ member)
    exact pieces_cons_of_not (plain a List.mem_cons_self) others

/-- A separator cuts a list into its two sides. -/
theorem pieces_append_separator (separator : p c) :
    pieces p (xs ++ c :: rest) = pieces p xs ++ pieces p rest := by
  induction xs with
  | nil => simp [pieces, separator]
  | cons a before ih =>
    rw [List.cons_append, pieces, pieces, ih]
    by_cases here : p a
    · simp [here]
    · cases cut : pieces p before with
      | nil => exact absurd cut (pieces_ne_nil p before)
      | cons first more => simp [here]

/-- Where two lists meet, the last piece of the one and the first of the other are one piece. -/
theorem exists_pieces_append (p : α → Bool) (xs rest : List α) : ∃ before last first more,
    pieces p xs = before ++ [last] ∧ pieces p rest = first :: more ∧
      pieces p (xs ++ rest) = before ++ (last ++ first) :: more := by
  induction xs with
  | nil =>
    obtain ⟨first, more, cut⟩ := List.exists_cons_of_ne_nil (pieces_ne_nil p rest)
    exact ⟨[], [], first, more, rfl, cut, cut⟩
  | cons a xs ih =>
    obtain ⟨before, last, first, more, cut, others, joined⟩ := ih
    rw [List.cons_append, pieces, pieces, cut, joined]
    by_cases here : p a
    · exact ⟨[] :: before, last, first, more, by simp [here], others, by simp [here]⟩
    · -- The element joins the first piece, which may be the last one.
      cases before with
      | nil => exact ⟨[], a :: last, first, more, by simp [here], others, by simp [here]⟩
      | cons head tail =>
        exact ⟨(a :: head) :: tail, last, first, more, by simp [here], others, by simp [here]⟩

/-- What has no separator in it is added to the last piece. -/
theorem exists_pieces_append_plain (p : α → Bool) (xs : List α)
    (plain : ∀ a ∈ rest, p a = false) : ∃ before last,
      pieces p xs = before ++ [last] ∧ pieces p (xs ++ rest) = before ++ [last ++ rest] := by
  obtain ⟨before, last, first, more, cut, whole, joined⟩ := exists_pieces_append p xs rest
  rw [pieces_plain plain] at whole
  obtain ⟨rfl, rfl⟩ := List.cons.inj whole
  exact ⟨before, last, cut, joined⟩

/-- No piece has a separator in it. -/
theorem plain_of_mem_pieces (member : piece ∈ pieces p xs) : ∀ a ∈ piece, p a = false := by
  induction xs generalizing piece with
  | nil =>
    obtain rfl : piece = [] := by simpa [pieces] using member
    simp
  | cons a rest ih =>
    rw [pieces] at member
    by_cases separator : p a
    · rw [if_pos separator] at member
      rcases List.mem_cons.mp member with rfl | later
      · simp
      · exact ih later
    · -- The element joins the first of the later pieces, and is no separator itself.
      rw [if_neg separator] at member
      cases cut : pieces p rest with
      | nil => exact absurd cut (pieces_ne_nil p rest)
      | cons first more =>
        simp only [cut] at member ih
        rcases List.mem_cons.mp member with rfl | later
        · have plain : p a = false := by simpa using separator
          simpa [plain] using ih List.mem_cons_self
        · exact ih (List.mem_cons_of_mem _ later)

variable [BEq α] [LawfulBEq α]

theorem beq_eq_false_of_not_mem (absent : c ∉ xs) : ∀ a ∈ xs, (a == c) = false := by
  intro a member
  rw [beq_eq_false_iff_ne]
  rintro rfl
  exact absent member

/-- The pieces with the separator between them are the list. -/
theorem intercalate_pieces (c : α) (xs : List α) :
    [c].intercalate (pieces (· == c) xs) = xs := by
  induction xs with
  | nil => rfl
  | cons a rest ih =>
    rw [pieces]
    cases cut : pieces (· == c) rest with
    | nil => exact absurd cut (pieces_ne_nil _ rest)
    | cons first more =>
      rw [cut] at ih
      by_cases separator : a == c
      · obtain rfl : a = c := eq_of_beq separator
        simp [List.intercalate_cons_cons, ih]
      · -- The element goes in front of the first piece; what is between the pieces stays.
        cases more with
        | nil => simpa [separator] using ih
        | cons second others =>
          rw [List.intercalate_cons_cons] at ih
          simp [separator, List.intercalate_cons_cons, ← ih]

/-- Pieces that are joined are found again, unless there are none. -/
theorem pieces_intercalate {parts : List (List α)} (some : parts ≠ [])
    (plain : ∀ part ∈ parts, c ∉ part) : pieces (· == c) ([c].intercalate parts) = parts := by
  induction parts with
  | nil => exact absurd rfl some
  | cons first more ih =>
    have here := beq_eq_false_of_not_mem (plain first List.mem_cons_self)
    -- The last part has no separator behind it, each other one is cut at it.
    cases more with
    | nil => simpa using pieces_plain here
    | cons second others =>
      have later := ih (List.cons_ne_nil _ _) fun part member =>
        plain part (List.mem_cons_of_mem _ member)
      rw [List.intercalate_cons_cons, List.append_assoc, List.singleton_append,
        pieces_append_cons here (beq_self_eq_true c), later]

end Pieces

/-! ### Pieces of a text -/

variable {c : Char} {s : String}

theorem not_mem_of_mem_split {piece : String} (member : piece ∈ split s c) :
    c ∉ piece.toList := by
  obtain ⟨cs, cut, rfl⟩ := List.mem_map.mp member
  intro inside
  rw [String.toList_ofList] at inside
  have plain := plain_of_mem_pieces cut c inside
  simp at plain

/-- Where two texts meet, the last piece of the one and the first of the other are one piece. -/
theorem exists_split_append (s t : String) (c : Char) : ∃ before last first more,
    split s c = before ++ [last] ∧ split t c = first :: more ∧
      split (s ++ t) c = before ++ (last ++ first) :: more := by
  obtain ⟨before, last, first, more, left, right, joined⟩ :=
    exists_pieces_append (· == c) s.toList t.toList
  refine ⟨before.map String.ofList, String.ofList last, String.ofList first,
    more.map String.ofList, ?_, ?_, ?_⟩
  · rw [split, left, List.map_append, List.map_singleton]
  · rw [split, right, List.map_cons]
  · rw [split, String.toList_append, joined, List.map_append, List.map_cons, String.ofList_append]

/-- What comes after the last separator is the last piece. -/
theorem split_append_last {t : String} (plain : c ∉ t.toList) :
    split (s ++ String.singleton c ++ t) c = split s c ++ [t] := by
  have chars : (s ++ String.singleton c ++ t).toList = s.toList ++ c :: t.toList := by simp
  have cut : pieces (· == c) (s.toList ++ c :: t.toList) =
      pieces (· == c) s.toList ++ pieces (· == c) t.toList :=
    pieces_append_separator (beq_self_eq_true c)
  rw [split, chars, cut, pieces_plain (beq_eq_false_of_not_mem plain), List.map_append]
  simp [split]

/-- The pieces of a text, joined, are the text. -/
theorem join_split (s : String) (c : Char) : join (String.singleton c) (split s c) = s := by
  apply String.toList_injective
  simp [join, split, List.map_map, Function.comp_def, intercalate_pieces]

/-- Pieces that are joined are found again, unless there are none. -/
theorem split_join {parts : List String} (some : parts ≠ [])
    (plain : ∀ part ∈ parts, c ∉ part.toList) :
    split (join (String.singleton c) parts) c = parts := by
  have cut : pieces (· == c) ([c].intercalate (parts.map String.toList)) =
      parts.map String.toList := by
    apply pieces_intercalate
    · simpa using some
    · simpa using plain
  simp [split, join, cut, Function.comp_def]

/-- The last piece of a text without trailing separators is empty only if the text is. -/
theorem eq_empty_of_split_dropTrailing {before : List String}
    (cut : split (dropTrailing c s) c = before ++ [""]) : dropTrailing c s = "" := by
  have other := List.head?_dropWhile_not (· == c) s.toList.reverse
  rw [dropTrailing] at cut ⊢
  cases left : s.toList.reverse.dropWhile (· == c) with
  | nil => rfl
  | cons a rest =>
    -- The last character is kept and no separator, so it is in the last piece.
    rw [left, List.head?_cons] at other
    rw [left, List.reverse_cons, split, String.toList_ofList] at cut
    have plain : ∀ b ∈ [a], (b == c) = false := by simpa using other
    obtain ⟨first, last, _, joined⟩ := exists_pieces_append_plain (· == c) rest.reverse plain
    rw [joined, List.map_append, List.map_singleton] at cut
    have empty := List.singleton_inj.mp (List.append_inj' cut rfl).2
    simp at empty

/-! ### The start and the end of a text -/

theorem dropLeading?_eq_some_iff {α : Type} [BEq α] [LawfulBEq α] {lead xs rest : List α} :
    dropLeading? lead xs = some rest ↔ xs = lead ++ rest := by
  induction lead generalizing xs with
  | nil => simp [dropLeading?]
  | cons a more ih =>
    cases xs with
    | nil => simp [dropLeading?]
    | cons x others =>
      rw [dropLeading?]
      by_cases same : a = x
      · simp [same, ih]
      · simp [same, Ne.symm same]

theorem stripStart?_eq_some_iff {lead s rest : String} :
    stripStart? lead s = some rest ↔ s = lead ++ rest := by
  simp only [stripStart?, Option.map_eq_some_iff, dropLeading?_eq_some_iff]
  constructor
  · rintro ⟨cs, cut, rfl⟩
    apply String.toList_injective
    simpa using cut
  · rintro rfl
    exact ⟨rest.toList, by simp, String.ofList_toList⟩

theorem stripEnd?_eq_some_iff {trail s rest : String} :
    stripEnd? trail s = some rest ↔ s = rest ++ trail := by
  simp only [stripEnd?, Option.map_eq_some_iff, dropLeading?_eq_some_iff]
  constructor
  · rintro ⟨cs, cut, rfl⟩
    apply String.toList_injective
    rw [List.reverse_eq_iff, List.reverse_append, List.reverse_reverse] at cut
    simpa using cut
  · rintro rfl
    exact ⟨rest.toList.reverse, by simp, by simp⟩

end ApiContract.Text
