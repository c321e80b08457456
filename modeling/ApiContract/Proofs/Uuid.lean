import ApiContract.Proofs.Text.Hex
import ApiContract.Uuid
import Mathlib.Algebra.GroupWithZero.Nat

/-!
# Reading back identifiers

An identifier is written as groups of digits, and read back from them.

## Main results

* `Uuid.ungroup?_group` — grouped digits are found again
* `Uuid.mem_toText` — an identifier is written with digits and hyphens
* `Uuid.read?_toText` — a written identifier is read back
-/

namespace ApiContract.Uuid

variable {id : Uuid}

/-- Digits that fill the groups are found again. -/
theorem ungroup?_group {sizes : List Nat} {digits : List Char} (some : sizes ≠ [])
    (full : digits.length = sizes.sum) : ungroup? sizes (group sizes digits) = .some digits := by
  induction sizes generalizing digits with
  | nil => exact absurd rfl some
  | cons n rest ih =>
    cases rest with
    | nil =>
      have size : digits.length = n := full.trans (Nat.add_zero n)
      rw [group, ungroup?, List.take_of_length_le (Nat.le_of_eq size), if_pos size]
    | cons m more =>
      have size : (digits.take n).length = n := by
        rw [List.length_take, full, List.sum_cons]
        omega
      have others : (digits.drop n).length = (m :: more).sum := by
        rw [List.length_drop, full, List.sum_cons]
        omega
      -- The first group is as long as its size says, so that the hyphen comes next.
      have first : group (n :: m :: more) digits =
          digits.take n ++ '-' :: group (m :: more) (digits.drop n) := rfl
      rw [first, ungroup?, List.drop_left' size, List.take_left' size]
      · simp only [ih (List.cons_ne_nil _ _) others, Option.map_some, List.take_append_drop]
      · exact List.cons_ne_nil _ _

theorem mem_group {sizes : List Nat} {digits : List Char} {c : Char}
    (member : c ∈ group sizes digits) : c ∈ digits ∨ c = '-' := by
  induction sizes generalizing digits with
  | nil => cases member
  | cons n rest ih =>
    cases rest with
    | nil => exact .inl (List.mem_of_mem_take member)
    | cons m more =>
      rcases List.mem_append.mp member with first | later
      · exact .inl (List.mem_of_mem_take first)
      · rcases List.mem_cons.mp later with rfl | later
        · exact .inr rfl
        · exact (ih later).imp_left List.mem_of_mem_drop

theorem length_group {sizes : List Nat} {digits : List Char} (full : digits.length = sizes.sum) :
    (group sizes digits).length = sizes.sum + (sizes.length - 1) := by
  induction sizes generalizing digits with
  | nil => rfl
  | cons n rest ih =>
    cases rest with
    | nil =>
      have size : digits.length = n := full.trans (Nat.add_zero n)
      simp [group, size]
    | cons m more =>
      have others : (digits.drop n).length = (m :: more).sum := by
        rw [List.length_drop, full, List.sum_cons]
        omega
      have first : group (n :: m :: more) digits =
          digits.take n ++ '-' :: group (m :: more) (digits.drop n) := rfl
      rw [first, List.length_append, List.length_cons, ih others, List.length_take, full]
      simp only [List.sum_cons, List.length_cons]
      omega

/-- An identifier is written with digits and hyphens. -/
theorem mem_toText {c : Char} (member : c ∈ id.toText.toList) :
    (∃ k < 16, c = Hex.digit k) ∨ c = '-' := by
  rw [toText, String.toList_ofList] at member
  exact (mem_group member).imp_left Hex.mem_fixed

theorem ofDigits?_fixed (id : Uuid) : ofDigits? (Hex.fixed 32 id.bits.toNat) = some id := by
  have bound : id.bits.toNat % Nat.pow 16 32 = id.bits.toNat := by
    have small := id.bits.isLt
    exact Nat.mod_eq_of_lt small
  rw [ofDigits?, if_pos (Hex.length_fixed 32 _), Hex.number?_fixed, bound]
  simp

/-- A written identifier is read back. -/
theorem read?_toText (id : Uuid) : read? id.toText = some id := by
  have full : (Hex.fixed 32 id.bits.toNat).length = groups.sum := Hex.length_fixed 32 _
  have found := ungroup?_group (by decide) full
  have long : ofDigits? (group groups (Hex.fixed 32 id.bits.toNat)) = none := by
    rw [ofDigits?, length_group full]
    rfl
  -- No digit is the brace or the letter that the other forms begin with.
  have plain : ∀ c ∈ group groups (Hex.fixed 32 id.bits.toNat), c ≠ '{' ∧ c ≠ 'u' := by
    intro c member
    rcases mem_group member with digit | rfl
    · obtain ⟨k, small, rfl⟩ := Hex.mem_fixed digit
      have all : ∀ k < 16, Hex.digit k ≠ '{' ∧ Hex.digit k ≠ 'u' := by decide
      exact all k small
    · decide
  rw [read?, toText, String.toList_ofList, readChars?]
  · simp only [long, found, Option.orElse_none, Option.bind_some, ofDigits?_fixed]
  · rintro rest same
    rw [same] at plain
    exact (plain _ List.mem_cons_self).1 rfl
  · rintro rest same
    rw [same] at plain
    exact (plain _ List.mem_cons_self).2 rfl

end ApiContract.Uuid
