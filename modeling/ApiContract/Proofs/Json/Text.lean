import ApiContract.Json.Read
import ApiContract.Json.Write
import ApiContract.Proofs.Json.Value
import ApiContract.Proofs.Text.Hex

/-!
# Reading back written JSON

A value that is laid out with one part a line is read back from its text, unless it nests deeper
than a text may. Values with numbers are left out: nothing that is stored has any.

## Main definitions

* `Json.Textual` — a value in which no number occurs
* `Json.depth` — how deep arrays and objects are nested

## Main results

* `Json.readString_flatMap` — a written string is read back
* `Json.Textual.readsBack` — a written value is read back from the front of a text
* `Json.readAsWritten_pretty` — a written value is read back from its text
* `Json.depth_obj_le_iff`, `Json.depth_arr_le_iff` — depth, part by part
-/

namespace ApiContract.Json

/-! ### Strings -/

/-- What follows the letter of an escape with digits are four digits. -/
def Readable (cs : List Char) : Prop :=
  ∀ a b c d rest, cs = '\\' :: 'u' :: a :: b :: c :: d :: rest → (fourDigits? a b c d).isSome

variable {rest : List Char}

/-- The code of a control character has four digits, from which it is read back. -/
theorem exists_fixed_four {n : Nat} (control : n < 0x20) :
    ∃ a b c d, Hex.fixed 4 n = [a, b, c, d] ∧ fourDigits? a b c d = some n := by
  obtain ⟨a, b, c, d, digits⟩ := List.length_eq_four.mp (Hex.length_fixed 4 n)
  have small : n < Nat.pow 16 4 := Nat.lt_trans control (by decide)
  refine ⟨a, b, c, d, digits, ?_⟩
  rw [fourDigits?, ← digits, Hex.number?_fixed, Nat.mod_eq_of_lt small]

/-- A number below a space is read from its digits. What follows is not taken for the second
half of a pair. -/
theorem readString_fixed {n : Nat} (control : n < 0x20) (readable : Readable rest) :
    readString ('\\' :: 'u' :: (Hex.fixed 4 n ++ rest)) =
      (readString rest).map fun p => (Char.ofNat n :: p.1, p.2) := by
  obtain ⟨a, b, c, d, digits, number⟩ := exists_fixed_four control
  have high : isHighSurrogate n = false := by
    rw [isHighSurrogate, Bool.and_eq_false_iff, decide_eq_false_iff_not]
    omega
  have low : isLowSurrogate n = false := by
    rw [isLowSurrogate, Bool.and_eq_false_iff, decide_eq_false_iff_not]
    omega
  rw [digits]
  by_cases pair : ∃ e f g h more, rest = '\\' :: 'u' :: e :: f :: g :: h :: more
  · obtain ⟨e, f, g, h, more, rfl⟩ := pair
    obtain ⟨k, second⟩ := Option.isSome_iff_exists.mp (readable e f g h more rfl)
    simp only [List.cons_append, List.nil_append]
    rw [readString.eq_3, number, second]
    simp [high, low]
  · have alone : ∀ e f g h more, rest = '\\' :: 'u' :: e :: f :: g :: h :: more → False :=
      fun e f g h more same => pair ⟨e, f, g, h, more, same⟩
    simp only [List.cons_append, List.nil_append]
    rw [readString.eq_4 _ _ _ _ _ alone, number]
    simp [high, low]

/-- A written character is read back. -/
theorem readString_writeChar (c : Char) (readable : Readable rest) :
    readString (writeChar c ++ rest) = (readString rest).map fun p => (c :: p.1, p.2) := by
  unfold writeChar
  split
  · rfl
  · rfl
  · rfl
  · rfl
  · rfl
  · rfl
  · rfl
  · rename_i noQuote noSlash _ _ _ _ _
    split
    · rename_i control
      have same : Char.ofNat c.toNat = c := Char.ofNat_toNat c
      rw [List.append_assoc, List.cons_append, List.cons_append, List.nil_append,
        readString_fixed control readable, same]
    · rename_i printed
      have plain : ¬ (decide (c.toNat < 0x20) || c == '\\') = true := by
        simpa [printed] using noSlash
      rw [List.singleton_append, readString.eq_6 c rest noQuote
        (fun _ _ _ _ _ _ _ _ _ same => (noSlash same).elim)
        (fun _ _ _ _ _ same => (noSlash same).elim) (fun _ _ same => (noSlash same).elim),
        if_neg plain]

theorem readable_writeChar (c : Char) (rest : List Char) : Readable (writeChar c ++ rest) := by
  intro i j k l more same
  unfold writeChar at same
  split at same
  case h_8 =>
    split at same
    · rename_i control
      obtain ⟨a, b, e, d, digits, number⟩ := exists_fixed_four control
      rw [digits] at same
      simp only [List.cons_append, List.nil_append, List.cons.injEq, true_and] at same
      obtain ⟨rfl, rfl, rfl, rfl, -⟩ := same
      rw [number]
      rfl
    · simp_all
  all_goals simp at same

/-- A written text is read back up to its closing quote. -/
theorem readString_flatMap (cs : List Char) (rest : List Char) :
    readString (cs.flatMap writeChar ++ '"' :: rest) = some (cs, rest) := by
  induction cs with
  | nil => rfl
  | cons c cs ih =>
    have readable : Readable (cs.flatMap writeChar ++ '"' :: rest) := by
      cases cs with
      | nil => exact fun _ _ _ _ _ same => nomatch same
      | cons d ds =>
        rw [List.flatMap_cons, List.append_assoc]
        exact readable_writeChar d _
    rw [List.flatMap_cons, List.append_assoc, readString_writeChar c readable, ih]
    rfl

/-! ### Values -/

/-- No number occurs in a value. -/
inductive Textual : Json → Prop
  | null : Textual .null
  | bool (b : Bool) : Textual (.bool b)
  | str (s : String) : Textual (.str s)
  | arr (items : List Json) (each : ∀ item ∈ items, Textual item) : Textual (.arr items)
  | obj (members : List (String × Json)) (each : ∀ p ∈ members, Textual p.2) :
      Textual (.obj members)

mutual

/-- How many arrays and objects enclose one another. -/
def depth : Json → Nat
  | .arr items => depthOfItems items + 1
  | .obj members => depthOfMembers members + 1
  | _ => 0

/-- How many arrays and objects enclose one another in some item. -/
def depthOfItems : List Json → Nat
  | [] => 0
  | item :: rest => max item.depth (depthOfItems rest)

/-- How many arrays and objects enclose one another in the value of some member. -/
def depthOfMembers : List (String × Json) → Nat
  | [] => 0
  | (_, value) :: rest => max value.depth (depthOfMembers rest)

end

theorem depthOfItems_le_iff {items : List Json} {n : Nat} :
    depthOfItems items ≤ n ↔ ∀ item ∈ items, item.depth ≤ n := by
  induction items with
  | nil => simp [depthOfItems]
  | cons item more ih => rw [depthOfItems, Nat.max_le, ih, List.forall_mem_cons]

theorem depthOfMembers_le_iff {members : List (String × Json)} {n : Nat} :
    depthOfMembers members ≤ n ↔ ∀ p ∈ members, p.2.depth ≤ n := by
  induction members with
  | nil => simp [depthOfMembers]
  | cons p more ih => rw [depthOfMembers, Nat.max_le, ih, List.forall_mem_cons]

theorem depth_arr_le_iff {items : List Json} {n : Nat} :
    depth (.arr items) ≤ n + 1 ↔ ∀ item ∈ items, item.depth ≤ n := by
  rw [depth, Nat.add_le_add_iff_right, depthOfItems_le_iff]

theorem depth_obj_le_iff {members : List (String × Json)} {n : Nat} :
    depth (.obj members) ≤ n + 1 ↔ ∀ p ∈ members, p.2.depth ≤ n := by
  rw [depth, Nat.add_le_add_iff_right, depthOfMembers_le_iff]

/-- The value is read back from where it is written, as long as it nests no deeper than it
may. -/
def ReadsBack (j : Json) : Prop :=
  ∀ fuel depth indent rest, (writePretty indent j).length ≤ fuel →
    readValue fuel depth (writePretty indent j ++ rest) =
      if j.depth ≤ depth then some (j, rest) else none

variable {j : Json}

/-- What is written of a value starts with no blank and closes nothing. -/
theorem exists_writePretty (textual : j.Textual) (indent : Nat) :
    ∃ c cs, writePretty indent j = c :: cs ∧ c ∈ ['n', 't', 'f', '"', '[', '{'] := by
  cases textual with
  | null => exact ⟨_, _, rfl, by decide⟩
  | bool b => cases b <;> exact ⟨_, _, rfl, by decide⟩
  | str s => exact ⟨_, _, rfl, by decide⟩
  | arr items => cases items <;> exact ⟨_, _, rfl, by decide⟩
  | obj members => cases members <;> exact ⟨_, _, rfl, by decide⟩

theorem skipSpace_lineBreak (indent : Nat) (cs : List Char) :
    skipSpace (lineBreak indent ++ cs) = skipSpace cs := by
  have space : isSpace '\n' = true := rfl
  rw [skipSpace, lineBreak, List.cons_append, List.dropWhile_cons, if_pos space]
  exact List.dropWhile_append_of_pos fun c member => by
    rw [List.eq_of_mem_replicate member]
    rfl

theorem skipSpace_writePretty (textual : j.Textual) (indent : Nat) (cs : List Char) :
    skipSpace (writePretty indent j ++ cs) = writePretty indent j ++ cs := by
  obtain ⟨c, tail, written, first⟩ := exists_writePretty textual indent
  have noSpace : ∀ c ∈ ['n', 't', 'f', '"', '[', '{'], isSpace c = false := by simp [isSpace]
  rw [written, List.cons_append, skipSpace, List.dropWhile_cons, noSpace c first,
    if_neg Bool.false_ne_true]

/-! ### Items -/

variable {fuel d indent outer : Nat} {cs tail : List Char} {item : Json}

theorem prettyItems_cons (next : Json) (more : List Json) :
    prettyItems indent (item :: next :: more) = lineBreak indent ++
      (writePretty indent item ++ ',' :: prettyItems indent (next :: more)) := by
  rw [prettyItems.eq_3 _ _ _ (List.cons_ne_nil _ _), List.append_assoc]

theorem readItems_eq_none (refused : readValue fuel d cs = none) :
    readItems (fuel + 1) d cs = none := by
  rw [readItems, refused]
  rfl

theorem readItems_last (read : readValue fuel d cs = some (item, tail))
    (closed : skipSpace tail = ']' :: rest) : readItems (fuel + 1) d cs = some ([item], rest) := by
  rw [readItems, read]
  simp [closed]

theorem readItems_more (read : readValue fuel d cs = some (item, tail))
    (parted : skipSpace tail = ',' :: rest) :
    readItems (fuel + 1) d cs =
      (readItems fuel d (skipSpace rest)).map fun p => (item :: p.1, p.2) := by
  rw [readItems, read]
  simp only [bind, Option.bind_some, parted]
  cases readItems fuel d (skipSpace rest) <;> rfl

/-- Items that are read back one by one are read back in a row. -/
theorem readItems_prettyItems {more : List Json} (textual : ∀ i ∈ item :: more, i.Textual)
    (each : ∀ i ∈ item :: more, i.ReadsBack)
    (enough : (prettyItems indent (item :: more)).length ≤ fuel) :
    readItems fuel d
        (skipSpace (prettyItems indent (item :: more) ++ (lineBreak outer ++ ']' :: rest))) =
      if depthOfItems (item :: more) ≤ d then some (item :: more, rest) else none := by
  induction more generalizing item fuel with
  | nil =>
    rw [prettyItems, List.length_append, lineBreak, List.length_cons] at enough
    obtain ⟨fuel, rfl⟩ : ∃ n, fuel = n + 1 := ⟨fuel - 1, by omega⟩
    have read := each item List.mem_cons_self fuel d indent (lineBreak outer ++ ']' :: rest)
      (by omega)
    rw [prettyItems, List.append_assoc, skipSpace_lineBreak,
      skipSpace_writePretty (textual item List.mem_cons_self), depthOfItems, depthOfItems,
      Nat.max_zero]
    by_cases within : item.depth ≤ d
    · rw [if_pos within] at read ⊢
      exact readItems_last read (skipSpace_lineBreak outer _)
    · rw [if_neg within] at read ⊢
      exact readItems_eq_none read
  | cons next more ih =>
    rw [prettyItems_cons, List.length_append, lineBreak, List.length_cons, List.length_append,
      List.length_cons] at enough
    obtain ⟨fuel, rfl⟩ : ∃ n, fuel = n + 1 := ⟨fuel - 1, by omega⟩
    have fits : (prettyItems indent (next :: more)).length ≤ fuel := by omega
    have later := ih (fun i member => textual i (List.mem_cons_of_mem _ member))
      (fun i member => each i (List.mem_cons_of_mem _ member)) fits
    have read := each item List.mem_cons_self fuel d indent
      (',' :: prettyItems indent (next :: more) ++ (lineBreak outer ++ ']' :: rest)) (by omega)
    rw [prettyItems_cons, List.append_assoc, List.append_assoc, skipSpace_lineBreak,
      skipSpace_writePretty (textual item List.mem_cons_self), List.cons_append]
    rw [List.cons_append] at read
    have both : depthOfItems (item :: next :: more) ≤ d ↔
        item.depth ≤ d ∧ depthOfItems (next :: more) ≤ d := Nat.max_le
    simp only [both]
    by_cases within : item.depth ≤ d
    · rw [if_pos within] at read
      rw [readItems_more read rfl, later]
      by_cases others : depthOfItems (next :: more) ≤ d <;> simp [within, others]
    · rw [if_neg within] at read
      rw [readItems_eq_none read, if_neg (fun all => within all.1)]

/-! ### Members -/

variable {key : String} {value : Json}

theorem prettyMembers_last : prettyMembers indent [(key, value)] =
    lineBreak indent ++ (quote key ++ (':' :: ' ' :: writePretty indent value)) := by
  rw [prettyMembers, List.append_assoc]

theorem prettyMembers_cons (next : String × Json) (more : List (String × Json)) :
    prettyMembers indent ((key, value) :: next :: more) =
      lineBreak indent ++ (quote key ++ (':' :: ' ' :: (writePretty indent value ++
        ',' :: prettyMembers indent (next :: more)))) := by
  rw [prettyMembers.eq_3 _ _ _ _ (List.cons_ne_nil _ _)]
  simp

theorem skipSpace_quote (s : String) (cs : List Char) :
    skipSpace (quote s ++ cs) = quote s ++ cs := rfl

theorem quote_append (s : String) (cs : List Char) :
    quote s ++ cs = '"' :: (s.toList.flatMap writeChar ++ '"' :: cs) := by
  simp [quote]

theorem readMembers_eq_none (refused : readValue fuel d (skipSpace cs) = none) :
    readMembers (fuel + 1) d (quote key ++ ':' :: cs) = none := by
  have colon : skipSpace (':' :: cs) = ':' :: cs := rfl
  rw [quote_append, readMembers, readString_flatMap]
  simp [colon, refused]

theorem readMembers_last (read : readValue fuel d (skipSpace cs) = some (value, tail))
    (closed : skipSpace tail = '}' :: rest) :
    readMembers (fuel + 1) d (quote key ++ ':' :: cs) = some ([(key, value)], rest) := by
  have colon : skipSpace (':' :: cs) = ':' :: cs := rfl
  rw [quote_append, readMembers, readString_flatMap]
  simp [colon, read, closed]

theorem readMembers_more (read : readValue fuel d (skipSpace cs) = some (value, tail))
    (parted : skipSpace tail = ',' :: rest) :
    readMembers (fuel + 1) d (quote key ++ ':' :: cs) =
      (readMembers fuel d (skipSpace rest)).map fun p => ((key, value) :: p.1, p.2) := by
  have colon : skipSpace (':' :: cs) = ':' :: cs := rfl
  rw [quote_append, readMembers, readString_flatMap]
  simp only [bind, Option.bind_some, colon, read, parted, String.ofList_toList]
  cases readMembers fuel d (skipSpace rest) <;> rfl

/-- Members whose values are read back one by one are read back in a row. -/
theorem readMembers_prettyMembers {more : List (String × Json)}
    (textual : ∀ p ∈ (key, value) :: more, p.2.Textual)
    (each : ∀ p ∈ (key, value) :: more, p.2.ReadsBack)
    (enough : (prettyMembers indent ((key, value) :: more)).length ≤ fuel) :
    readMembers fuel d (skipSpace
        (prettyMembers indent ((key, value) :: more) ++ (lineBreak outer ++ '}' :: rest))) =
      if depthOfMembers ((key, value) :: more) ≤ d then some ((key, value) :: more, rest)
      else none := by
  have here : value.Textual := textual (key, value) List.mem_cons_self
  have blank : ∀ cs, skipSpace (' ' :: (writePretty indent value ++ cs)) =
      writePretty indent value ++ cs := skipSpace_writePretty here indent
  induction more generalizing key value fuel with
  | nil =>
    rw [prettyMembers_last, List.length_append, List.length_append, List.length_cons,
      List.length_cons, lineBreak, List.length_cons] at enough
    obtain ⟨fuel, rfl⟩ : ∃ n, fuel = n + 1 := ⟨fuel - 1, by omega⟩
    have read := each (key, value) List.mem_cons_self fuel d indent
      (lineBreak outer ++ '}' :: rest) (by dsimp only; omega)
    rw [prettyMembers_last, List.append_assoc, List.append_assoc, List.cons_append,
      List.cons_append, skipSpace_lineBreak, skipSpace_quote, depthOfMembers, depthOfMembers,
      Nat.max_zero]
    by_cases within : value.depth ≤ d
    · rw [if_pos within] at read ⊢
      exact readMembers_last ((blank _).symm ▸ read) (skipSpace_lineBreak outer _)
    · rw [if_neg within] at read ⊢
      exact readMembers_eq_none ((blank _).symm ▸ read)
  | cons next more ih =>
    obtain ⟨nextKey, nextValue⟩ := next
    rw [prettyMembers_cons, List.length_append, List.length_append, List.length_cons,
      List.length_cons, List.length_append, List.length_cons, lineBreak,
      List.length_cons] at enough
    obtain ⟨fuel, rfl⟩ : ∃ n, fuel = n + 1 := ⟨fuel - 1, by omega⟩
    have nextTextual := textual (nextKey, nextValue) (List.mem_cons_of_mem _ List.mem_cons_self)
    have fits : (prettyMembers indent ((nextKey, nextValue) :: more)).length ≤ fuel := by omega
    have later := ih (fun p member => textual p (List.mem_cons_of_mem _ member))
      (fun p member => each p (List.mem_cons_of_mem _ member)) fits
      nextTextual (skipSpace_writePretty nextTextual indent)
    have read := each (key, value) List.mem_cons_self fuel d indent
      (',' :: (prettyMembers indent ((nextKey, nextValue) :: more) ++
        (lineBreak outer ++ '}' :: rest))) (by dsimp only; omega)
    rw [prettyMembers_cons, List.append_assoc, List.append_assoc, List.cons_append,
      List.cons_append, List.append_assoc, List.cons_append, skipSpace_lineBreak, skipSpace_quote]
    have both : depthOfMembers ((key, value) :: (nextKey, nextValue) :: more) ≤ d ↔
        value.depth ≤ d ∧ depthOfMembers ((nextKey, nextValue) :: more) ≤ d := Nat.max_le
    simp only [both]
    by_cases within : value.depth ≤ d
    · rw [if_pos within] at read
      rw [readMembers_more ((blank _).symm ▸ read) rfl, later]
      by_cases others : depthOfMembers ((nextKey, nextValue) :: more) ≤ d <;>
        simp [within, others]
    · rw [if_neg within] at read
      rw [readMembers_eq_none ((blank _).symm ▸ read), if_neg (fun all => within all.1)]

/-! ### Whole values -/

/-- Items do not start with the end of the array. -/
theorem skipSpace_prettyItems_ne (textual : item.Textual) (more : List Json)
    (cs tail : List Char) :
    skipSpace (prettyItems indent (item :: more) ++ cs) ≠ ']' :: tail := by
  have start : ∃ after, skipSpace (prettyItems indent (item :: more) ++ cs) =
      writePretty indent item ++ after := by
    cases more with
    | nil =>
      rw [prettyItems, List.append_assoc, skipSpace_lineBreak, skipSpace_writePretty textual]
      exact ⟨_, rfl⟩
    | cons next more =>
      rw [prettyItems_cons, List.append_assoc, List.append_assoc, skipSpace_lineBreak,
        skipSpace_writePretty textual]
      exact ⟨_, rfl⟩
  obtain ⟨after, start⟩ := start
  obtain ⟨c, cs, head, first⟩ := exists_writePretty textual indent
  rw [start, head, List.cons_append]
  intro closed
  obtain ⟨rfl, -⟩ := List.cons.inj closed
  revert first
  decide

/-- Members do not start with the end of the object. -/
theorem skipSpace_prettyMembers_ne (more : List (String × Json)) (cs tail : List Char) :
    skipSpace (prettyMembers indent ((key, value) :: more) ++ cs) ≠ '}' :: tail := by
  have start : ∃ after, skipSpace (prettyMembers indent ((key, value) :: more) ++ cs) =
      quote key ++ after := by
    cases more with
    | nil =>
      rw [prettyMembers_last, List.append_assoc, List.append_assoc, skipSpace_lineBreak,
        skipSpace_quote]
      exact ⟨_, rfl⟩
    | cons next more =>
      rw [prettyMembers_cons, List.append_assoc, List.append_assoc, skipSpace_lineBreak,
        skipSpace_quote]
      exact ⟨_, rfl⟩
  obtain ⟨after, start⟩ := start
  rw [start, quote_append]
  intro closed
  cases (List.cons.inj closed).1

theorem writePretty_arr (more : List Json) : writePretty indent (.arr (item :: more)) =
    '[' :: (prettyItems (indent + 1) (item :: more) ++ (lineBreak indent ++ [']'])) := by
  simp [writePretty]

theorem writePretty_obj (member : String × Json) (more : List (String × Json)) :
    writePretty indent (.obj (member :: more)) =
      '{' :: (prettyMembers (indent + 1) (member :: more) ++ (lineBreak indent ++ ['}'])) := by
  simp [writePretty]

theorem readValue_arr (opens : ∀ more, skipSpace cs ≠ ']' :: more) :
    readValue (fuel + 1) (d + 1) ('[' :: cs) =
      (readItems fuel d (skipSpace cs)).map fun p => (.arr p.1, p.2) := by
  rw [readValue, if_neg (Nat.succ_ne_zero d)]
  split
  · rename_i more closed
    exact absurd closed (opens more)
  · rfl

theorem readValue_obj (opens : ∀ more, skipSpace cs ≠ '}' :: more) :
    readValue (fuel + 1) (d + 1) ('{' :: cs) =
      (readMembers fuel d (skipSpace cs)).map fun p => (.obj p.1, p.2) := by
  rw [readValue, if_neg (Nat.succ_ne_zero d)]
  split
  · rename_i more closed
    exact absurd closed (opens more)
  · rfl

/-- Something is written of every value, so that there is fuel to read it. -/
theorem Textual.readsBack_of (textual : j.Textual)
    (step : ∀ fuel d indent rest, (writePretty indent j).length ≤ fuel + 1 →
      readValue (fuel + 1) d (writePretty indent j ++ rest) =
        if j.depth ≤ d then some (j, rest) else none) : j.ReadsBack := by
  intro fuel d indent rest enough
  obtain ⟨c, cs, written, -⟩ := exists_writePretty textual indent
  cases fuel with
  | zero => rw [written] at enough; cases enough
  | succ fuel => exact step fuel d indent rest enough

/-- Every value without numbers is read back, as long as it nests no deeper than it may. -/
theorem Textual.readsBack (textual : j.Textual) : j.ReadsBack := by
  induction textual with
  | null =>
    refine Textual.null.readsBack_of fun fuel d indent rest _ => ?_
    exact (if_pos (Nat.zero_le d)).symm
  | bool b =>
    refine (Textual.bool b).readsBack_of fun fuel d indent rest _ => ?_
    cases b <;> exact (if_pos (Nat.zero_le d)).symm
  | str s =>
    refine (Textual.str s).readsBack_of fun fuel d indent rest _ => ?_
    have written : writePretty indent (.str s) = quote s := rfl
    have shallow : depth (.str s) ≤ d := Nat.zero_le d
    rw [if_pos shallow, written, quote_append, readValue, readString_flatMap]
    simp
  | arr items each ih =>
    refine (Textual.arr items each).readsBack_of fun fuel d indent rest enough => ?_
    cases items with
    | nil => cases d <;> rfl
    | cons item more =>
      have deeper : depth (.arr (item :: more)) = depthOfItems (item :: more) + 1 := rfl
      rw [writePretty_arr, List.length_cons, List.length_append] at enough
      rw [writePretty_arr, List.cons_append, List.append_assoc, List.append_assoc,
        List.singleton_append, deeper]
      cases d with
      | zero => rfl
      | succ d =>
        rw [readValue_arr (skipSpace_prettyItems_ne (each item List.mem_cons_self) more _),
          readItems_prettyItems each ih (by omega)]
        by_cases within : depthOfItems (item :: more) ≤ d <;> simp [within]
  | obj members each ih =>
    refine (Textual.obj members each).readsBack_of fun fuel d indent rest enough => ?_
    cases members with
    | nil => cases d <;> rfl
    | cons member more =>
      obtain ⟨key, value⟩ := member
      have deeper : depth (.obj ((key, value) :: more)) =
          depthOfMembers ((key, value) :: more) + 1 := rfl
      rw [writePretty_obj, List.length_cons, List.length_append] at enough
      rw [writePretty_obj, List.cons_append, List.append_assoc, List.append_assoc,
        List.singleton_append, deeper]
      cases d with
      | zero => rfl
      | succ d =>
        rw [readValue_obj (skipSpace_prettyMembers_ne more _),
          readMembers_prettyMembers each ih (by omega)]
        by_cases within : depthOfMembers ((key, value) :: more) ≤ d <;> simp [within]

/-- A value without numbers is read back from its text, unless it nests too deep. -/
theorem readAsWritten_pretty (textual : j.Textual) :
    readAsWritten j.pretty = if j.depth ≤ maxDepth then some j else none := by
  have read := textual.readsBack ((writePretty 0 j).length + 1) maxDepth 0 [] (Nat.le_succ _)
  have start := skipSpace_writePretty textual 0 []
  rw [List.append_nil] at read start
  rw [readAsWritten, pretty, String.toList_ofList, start, read]
  by_cases within : j.depth ≤ maxDepth
  · rw [if_pos within, if_pos within]
    rfl
  · rw [if_neg within, if_neg within]

end ApiContract.Json
