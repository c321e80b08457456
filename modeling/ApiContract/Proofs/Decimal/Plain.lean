import ApiContract.Proofs.Decimal.Digits
import Mathlib.Data.List.TakeWhile

/-!
# Numbers as plain text

A whole number is written with its digits, and a minus sign when it is negative. Read back it
is the same number, or as a float the one nearest to it. There are no blanks in its text, so
that trimming leaves it as it is.

## Main definitions

* `Text.Unspaced` — no character is blank

## Main results

* `Text.trim_of_unspaced` — nothing is trimmed from a text without blanks
* `Decimal.readInteger?_toString`, `Decimal.readFloat?_toString` — whole numbers are read back
* `Decimal.unspaced_toString` — whole numbers are written without blanks
-/

namespace ApiContract

/-! ### Texts without blanks -/

namespace Text

/-- No character is blank. -/
def Unspaced (cs : List Char) : Prop := ∀ c ∈ cs, isBlank c = false

namespace Unspaced

variable {cs ds : List Char} {c : Char}

theorem nil : Unspaced [] := List.forall_mem_nil _

theorem cons (first : isBlank c = false) (rest : Unspaced cs) : Unspaced (c :: cs) :=
  List.forall_mem_cons.mpr ⟨first, rest⟩

theorem append (left : Unspaced cs) (right : Unspaced ds) : Unspaced (cs ++ ds) :=
  List.forall_mem_append.mpr ⟨left, right⟩

end Unspaced

/-- Nothing is trimmed from a text without blanks. -/
theorem trim_of_unspaced {s : String} (unspaced : Unspaced s.toList) : trim s = s := by
  have front : s.toList.dropWhile isBlank = s.toList := by
    cases shape : s.toList with
    | nil => rfl
    | cons c rest =>
      rw [List.dropWhile_cons, if_neg]
      simp [unspaced c (by simp [shape])]
  have back : s.toList.reverse.dropWhile isBlank = s.toList.reverse := by
    cases shape : s.toList.reverse with
    | nil => rfl
    | cons c rest =>
      have member : c ∈ s.toList := List.mem_reverse.mp (by simp [shape])
      rw [List.dropWhile_cons, if_neg]
      simp [unspaced c member]
  rw [trim, trimChars, front, back, List.reverse_reverse, String.ofList_toList]

end Text

namespace Decimal

open Text (Unspaced isBlank)

/-! ### Whole numbers -/

theorem isDigit_of_mem_toDigits {n : Nat} {c : Char} (member : c ∈ Nat.toDigits 10 n) :
    isDigit c := by
  rw [isDigit_eq]
  exact Nat.isDigit_of_mem_toDigits (by decide) (by decide) member

theorem isBlank_of_isDigit {c : Char} (digit : isDigit c) : isBlank c = false := by
  rw [isDigit_eq] at digit
  obtain ⟨low, high⟩ := Char.isDigit_iff_toNat.mp digit
  have least : '0'.toNat = 48 := rfl
  have greatest : '9'.toNat = 57 := rfl
  simp [isBlank]
  omega

theorem unspaced_toDigits (n : Nat) : Unspaced (Nat.toDigits 10 n) :=
  fun _ member => isBlank_of_isDigit (isDigit_of_mem_toDigits member)

/-- A whole number is written as its digits, after a minus sign when it is negative. -/
theorem toList_toString (n : Int) :
    (toString n).toList = (if n < 0 then ['-'] else []) ++ Nat.toDigits 10 n.natAbs := by
  cases n with
  | ofNat m =>
    have notNegative : ¬ Int.ofNat m < 0 := by simp
    rw [if_neg notNegative]
    exact Nat.toList_repr
  | negSucc m =>
    rw [if_pos (Int.negSucc_lt_zero m), Int.toString_eq_repr, Int.repr, String.toList_append,
      Nat.toList_repr]
    rfl

theorem takeSign_of_isDigit {cs : List Char} (first : ∀ c ∈ cs.head?, isDigit c) :
    takeSign cs = (false, cs) := by
  unfold takeSign
  split
  · exact absurd (first '-' rfl) (by decide)
  · exact absurd (first '+' rfl) (by decide)
  · rfl

theorem takeSign_toString (n : Int) :
    takeSign (toString n).toList = (decide (n < 0), Nat.toDigits 10 n.natAbs) := by
  rw [toList_toString]
  by_cases negative : n < 0
  · rw [if_pos negative, decide_eq_true negative]
    rfl
  · -- Without a sign the first character is a digit, which is not taken for one.
    rw [if_neg negative, decide_eq_false negative, List.nil_append]
    refine takeSign_of_isDigit fun c first => ?_
    exact isDigit_of_mem_toDigits (List.mem_of_mem_head? first)

/-- A whole number is read back from its text. -/
theorem readInteger?_toString (n : Int) : readInteger? (toString n) = some n := by
  have digits : (Nat.toDigits 10 n.natAbs).all isDigit := by
    rw [List.all_eq_true]
    exact fun c => isDigit_of_mem_toDigits
  have some : (Nat.toDigits 10 n.natAbs).isEmpty = false := by
    rw [List.isEmpty_eq_false_iff]
    exact Nat.toDigits_ne_nil
  rw [readInteger?, takeSign_toString]
  dsimp only
  rw [some, digits, ofDigits_eq, Nat.ofDigitChars_ten_toDigits, if_neg (by decide),
    Option.some.injEq]
  by_cases negative : n < 0
  · rw [if_pos (decide_eq_true negative)]
    omega
  · rw [if_neg (by simpa using negative)]
    omega

theorem readInt64?_toString {n : Int} (inRange : isInt64 n) :
    readInt64? (toString n) = some (Int64.ofInt n) := by
  rw [readInt64?, readInteger?_toString]
  exact if_pos inRange

theorem readUnsigned?_toDigits (n : Nat) :
    readUnsigned? (Nat.toDigits 10 n) = some (nearest n 0) := by
  have digits : ∀ c ∈ Nat.toDigits 10 n, isDigit c := fun c => isDigit_of_mem_toDigits
  have whole : (Nat.toDigits 10 n).takeWhile isDigit = Nat.toDigits 10 n :=
    List.takeWhile_eq_self_iff.mpr digits
  have rest : (Nat.toDigits 10 n).dropWhile isDigit = [] :=
    List.dropWhile_eq_nil_iff.mpr digits
  have some : (Nat.toDigits 10 n).isEmpty = false := by
    rw [List.isEmpty_eq_false_iff]
    exact Nat.toDigits_ne_nil
  rw [readUnsigned?, whole, rest]
  dsimp only
  rw [some, ofDigits_eq 0, Nat.ofDigitChars_ten_toDigits]
  rfl

/-- The text of a whole number is read as the float nearest to it. -/
theorem readFloat?_toString (n : Int) : readFloat? (toString n) = some (ofInt n) := by
  rw [readFloat?, takeSign_toString]
  dsimp only
  rw [readUnsigned?_toDigits]
  rfl

theorem unspaced_toString (n : Int) : Unspaced (toString n).toList := by
  rw [toList_toString]
  refine .append ?_ (unspaced_toDigits _)
  by_cases negative : n < 0
  · rw [if_pos negative]
    exact .cons (by decide) .nil
  · rw [if_neg negative]
    exact .nil

end Decimal

end ApiContract
