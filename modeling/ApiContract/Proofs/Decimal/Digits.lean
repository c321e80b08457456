import ApiContract.Decimal.Read
import ApiContract.Time.Pattern

/-!
# Digits in front of a text

Numbers are written in decimal digits with zeros in front. A reader that takes the digits at
the front of a text takes exactly those when no digit follows them.

## Main results

* `Decimal.ofDigits_zeroPadded` — a written number is read back
* `Decimal.takeWhile_digits` — the digits at the front of a text
* `Decimal.ofDigits_lt` — so many digits make a number below that power of ten
-/

namespace ApiContract

open TimePattern (zeroPadded)

namespace Decimal

variable {digits rest : List Char}

theorem isDigit_eq (c : Char) : isDigit c = c.isDigit := by
  by_cases h : '0' ≤ c ∧ c ≤ '9'
  · have digit : c.isDigit = true := by
      simpa [Char.isDigit, Char.le_def] using h
    rw [isDigit, digit?, if_pos h, digit]
    rfl
  · have other : c.isDigit = false := by
      simpa [Char.isDigit, Char.le_def] using h
    rw [isDigit, digit?, if_neg h, other]
    rfl

theorem ofDigits_eq (acc : Nat) (cs : List Char) :
    ofDigits acc cs = Nat.ofDigitChars 10 cs acc := by
  rw [ofDigits, Nat.ofDigitChars_eq_foldl]
  simp only [Nat.mul_comm]

theorem isDigit_of_mem_zeroPadded {width n : Nat} {c : Char} (member : c ∈ zeroPadded width n) :
    isDigit c := by
  rw [isDigit_eq]
  rcases List.mem_append.mp member with zero | digit
  · rw [(List.mem_replicate.mp zero).2]
    rfl
  · exact Nat.isDigit_of_mem_toDigits (by decide) (by decide) digit

/-- A number is read back from its digits, whatever zeros stand in front. -/
theorem ofDigits_zeroPadded (width n : Nat) : ofDigits 0 (zeroPadded width n) = n := by
  rw [ofDigits_eq, zeroPadded, Nat.ofDigitChars_append, Nat.ofDigitChars_replicate_zero]
  exact Nat.ofDigitChars_ten_toDigits

theorem length_zeroPadded {width n : Nat} (positive : 0 < width)
    (small : n < Nat.pow 10 width) :
    (zeroPadded width n).length = width := by
  have fits := (Nat.length_toDigits_le_iff (by decide) positive).mpr small
  rw [zeroPadded, List.length_append, List.length_replicate]
  omega

theorem zeroPadded_ne_nil (width n : Nat) : zeroPadded width n ≠ [] := by
  simp [zeroPadded]

private theorem ofDigits_lt_mul (all : ∀ c ∈ digits, isDigit c) (acc : Nat) :
    ofDigits acc digits < (acc + 1) * Nat.pow 10 digits.length := by
  induction digits generalizing acc with
  | nil => simp [ofDigits]
  | cons c rest ih =>
    have digit : c.toNat ≤ 57 := by
      have here := all c List.mem_cons_self
      rw [isDigit_eq] at here
      exact (Char.isDigit_iff_toNat.mp here).2
    have value : c.toNat - '0'.toNat ≤ 9 := by
      show c.toNat - 48 ≤ 9
      omega
    calc ofDigits acc (c :: rest) = ofDigits (acc * 10 + (c.toNat - '0'.toNat)) rest := rfl
      _ < (acc * 10 + (c.toNat - '0'.toNat) + 1) * Nat.pow 10 rest.length :=
        ih (fun d member => all d (List.mem_cons_of_mem _ member)) _
      _ ≤ ((acc + 1) * 10) * Nat.pow 10 rest.length := Nat.mul_le_mul_right _ (by omega)
      _ = (acc + 1) * (Nat.pow 10 rest.length * 10) := by
        rw [Nat.mul_assoc, Nat.mul_comm 10]
      _ = (acc + 1) * Nat.pow 10 (c :: rest).length := rfl

/-- So many digits make a number below that power of ten. -/
theorem ofDigits_lt (all : ∀ c ∈ digits, isDigit c) :
    ofDigits 0 digits < Nat.pow 10 digits.length := by
  simpa using ofDigits_lt_mul all 0

/-- No digit comes first. -/
def NoDigit (cs : List Char) : Prop := ∀ c ∈ cs.head?, isDigit c = false

/-- The digits at the front of a text. -/
theorem takeWhile_digits (all : ∀ c ∈ digits, isDigit c) (stop : NoDigit rest) :
    (digits ++ rest).takeWhile isDigit = digits := by
  rw [List.takeWhile_append_of_pos all]
  cases rest with
  | nil => simp
  | cons c more => rw [List.takeWhile_cons, if_neg (by simp [stop c rfl]), List.append_nil]

end Decimal

end ApiContract
