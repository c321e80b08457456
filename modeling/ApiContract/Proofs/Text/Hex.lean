import ApiContract.Text.Hex

/-!
# Reading back hexadecimal digits

## Main results

* `Hex.number?_fixed` — a written number is read back, save for the digits that are lost
* `Hex.length_fixed`, `Hex.mem_fixed` — how many digits are written, and which
-/

namespace ApiContract.Hex

theorem value?_digit {n : Nat} (small : n < 16) : value? (digit n) = some n := by
  have all : ∀ n < 16, value? (digit n) = some n := by decide
  exact all n small

theorem length_fixed (width n : Nat) : (fixed width n).length = width := by
  induction width generalizing n with
  | zero => rfl
  | succ width ih => rw [fixed, List.length_append, ih, List.length_singleton]

/-- What is written are digits of numbers below sixteen. -/
theorem mem_fixed {width n : Nat} {c : Char} (member : c ∈ fixed width n) :
    ∃ k < 16, c = digit k := by
  induction width generalizing n with
  | zero => cases member
  | succ width ih =>
    rcases List.mem_append.mp member with before | last
    · exact ih before
    · exact ⟨n % 16, Nat.mod_lt n (by decide), List.mem_singleton.mp last⟩

theorem number?_append_digit {cs : List Char} {k n : Nat} (read : number? cs = some k)
    (small : n < 16) : number? (cs ++ [digit n]) = some (k * 16 + n) := by
  rw [number?] at read
  rw [number?, List.foldlM_append, read]
  simp [value?_digit small]

/-- A number is read back from its digits, save for those that are lost. -/
theorem number?_fixed (width n : Nat) :
    number? (fixed width n) = some (n % Nat.pow 16 width) := by
  induction width generalizing n with
  | zero => simp [fixed, number?, Nat.mod_one]
  | succ width ih =>
    rw [fixed, number?_append_digit (ih (n / 16)) (Nat.mod_lt n (by decide))]
    have step : n % Nat.pow 16 (width + 1) =
        n % 16 + 16 * (n / 16 % Nat.pow 16 width) := by
      rw [Nat.pow_eq, Nat.pow_eq, Nat.pow_succ, Nat.mul_comm, Nat.mod_mul]
    congr 1
    omega

end ApiContract.Hex
