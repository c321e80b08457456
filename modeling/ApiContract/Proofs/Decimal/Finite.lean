import ApiContract.Decimal.Nearest

/-!
# The floats of whole numbers

The float nearest to a whole number that fits 64 bits, with or without a sign, is finite: its
exponent stays far below the one that infinities have.

## Main results

* `isFinite_iff` — a float is finite when its exponent is not the largest one
* `isFinite_neg` — the sign does not matter
* `isFinite_ofInt` — the float of a number of 64 bits is finite
-/

namespace ApiContract.Decimal

open Float.Model
open Float.Model.UnpackedFloat hiding pack unpack

/-! ### The exponent of a float -/

/-- The eleven bits of the exponent. -/
def exponentField (bits : BitVec 64) : BitVec 11 :=
  @unpackExponent Format.binary64 bits

theorem toNat_exponentField (b : UInt64) :
    (exponentField b.toBitVec).toNat = b.toNat / bound 52 % bound 11 := by
  simp [exponentField, unpackExponent, bound, Nat.shiftRight_eq_div_pow]

/-- A float is finite when its exponent is not the largest one. -/
theorem isFinite_iff (x : Float) : isFinite x ↔ exponentField x.toBits.toBitVec ≠ -1#11 := by
  rw [isFinite, parts?, ← toNat_exponentField, Ne, ← BitVec.toNat_inj]
  by_cases largest : (exponentField x.toBits.toBitVec).toNat = 2047
  · simp [largest]
  · by_cases least : (exponentField x.toBits.toBitVec).toNat = 0
    · simp [least]
    · simp [largest, least]

/-- An unpacked float that is no infinity, and is not packed as one. -/
def Bounded : UnpackedFloat → Prop
  | .zero _ => True
  | .finite _ _ exponent _ => exponent < 972
  | _ => False

private theorem bounded_unpack {bits : BitVec 64} (small : exponentField bits ≠ -1#11) :
    Bounded (UnpackedFloat.unpack Format.binary64 bits) := by
  have below : (@unpackExponent Format.binary64 bits).toNat < 2047 := by
    have fits := (exponentField bits).isLt
    rw [Ne, ← BitVec.toNat_inj] at small
    exact Nat.lt_of_le_of_ne (Nat.le_of_lt_succ fits) small
  have finite : @unpackExponent Format.binary64 bits ≠ -1#11 := small
  have bias : (Format.binary64.exponentBias : Int) = 1023 := by decide
  unfold UnpackedFloat.unpack
  dsimp only
  rw [if_neg finite]
  by_cases least : @unpackExponent Format.binary64 bits = 0#_
  · rw [if_pos least]
    by_cases zero : @unpackMantissa Format.binary64 bits = 0#_
    · rw [dif_pos zero]
      trivial
    · rw [dif_neg zero]
      show _ + 1 < (972 : Int)
      rw [least]
      decide
  · rw [if_neg least]
    show _ < (972 : Int)
    rw [bias]
    omega

private theorem exponentField_pack {u : UnpackedFloat} (bounded : Bounded u) :
    exponentField (UnpackedFloat.pack Format.binary64 u) ≠ -1#11 := by
  cases u with
  | infinity _ => exact bounded.elim
  | notANumber => exact bounded.elim
  | zero s =>
    show unpackExponent (packComponents Format.binary64 s 0#_ 0#_) ≠ -1#11
    rw [unpackExponent_packComponents]
    decide
  | finite s m e positive =>
    have below : e < 972 := bounded
    have bias : (Format.binary64.exponentBias : Int) = 1023 := by decide
    delta exponentField UnpackedFloat.pack
    dsimp only
    rw [bias]
    split
    · rename_i large
      simp at large
      omega
    · split
      · rename_i within _
        rw [unpackExponent_packComponents, Ne, ← BitVec.toNat_inj]
        simp at within ⊢
        omega
      · rw [unpackExponent_packComponents]
        decide

/-- The float of some bits is finite when their exponent is not the largest one. -/
theorem isFinite_ofBits {b : UInt64} (small : exponentField b.toBitVec ≠ -1#11) :
    isFinite (Float.ofBits b) :=
  (isFinite_iff _).mpr (exponentField_pack (bounded_unpack small))

private theorem Bounded.neg {u : UnpackedFloat} (bounded : Bounded u) : Bounded u.neg := by
  cases u <;> exact bounded

/-- The sign does not matter. -/
theorem isFinite_neg {x : Float} (finite : isFinite x) : isFinite (-x) := by
  rw [isFinite_iff] at finite ⊢
  exact exponentField_pack (bounded_unpack finite).neg

theorem isFinite_signed {x : Float} (negative : Bool) (finite : isFinite x) :
    isFinite (signed negative x) := by
  rw [signed]
  split
  · exact isFinite_neg finite
  · exact finite

/-! ### Rounding a whole number -/

/-- A mantissa of at most 53 bits with a small exponent makes a finite float. -/
theorem isFinite_ofMantissa {m : Nat} {e : Int} (mantissa : m ≤ bound 53) (low : -1074 ≤ e)
    (high : e ≤ 970) : isFinite (ofMantissa m e) := by
  have h52 : bound 52 = 4503599627370496 := rfl
  have h53 : bound 53 = 9007199254740992 := rfl
  have h11 : bound 11 = 2048 := rfl
  rw [h53] at mantissa
  rw [ofMantissa, h52]
  split
  · rename_i subnormal
    refine isFinite_ofBits ?_
    rw [Ne, ← BitVec.toNat_inj, toNat_exponentField, h52, h11, UInt64.toNat_ofNat']
    show ¬ _ = 2047
    omega
  · rename_i normal
    dsimp only
    rw [if_neg (by omega)]
    refine isFinite_ofBits ?_
    -- a mantissa of 54 bits would carry into the exponent, which has room for one more
    rw [Ne, ← BitVec.toNat_inj, toNat_exponentField, h52, h11, UInt64.toNat_ofNat']
    show ¬ _ = 2047
    omega

theorem divNearestEven_le {num den k : Nat} (below : num < k * den) :
    divNearestEven num den ≤ k := by
  have quotient : num / den < k := Nat.div_lt_of_lt_mul (Nat.mul_comm k den ▸ below)
  unfold divNearestEven
  dsimp only
  split
  · omega
  · split
    · omega
    · omega

theorem bound_add (a b : Nat) : bound (a + b) = bound a * bound b :=
  Nat.pow_add 2 a b

theorem bound_pos (bits : Nat) : 0 < bound bits :=
  Nat.two_pow_pos bits

private theorem binaryExponent_one {n : Nat} (positive : n ≠ 0) :
    binaryExponent n 1 = (n.log2 : Int) - 52 := by
  have least : bound n.log2 ≤ n := Nat.log2_self_le positive
  have one : Nat.log2 1 = 0 := by decide
  have guess : (n.log2 : Int) - (0 : Nat) - 52 = (n.log2 : Int) - 52 := by omega
  -- The first guess is never too large, since the denominator is a power of two.
  have fits : if 0 ≤ (n.log2 : Int) - 52 then
      1 * bound (52 + ((n.log2 : Int) - 52).toNat) ≤ n
      else 1 * bound 52 ≤ n * bound (-((n.log2 : Int) - 52)).toNat := by
    split
    · have exponent : 52 + ((n.log2 : Int) - 52).toNat = n.log2 := by omega
      rw [exponent, Nat.one_mul]
      exact least
    · have exponent : n.log2 + (-((n.log2 : Int) - 52)).toNat = 52 := by omega
      have scaled := Nat.mul_le_mul_right (bound (-((n.log2 : Int) - 52)).toNat) least
      rw [← bound_add, exponent] at scaled
      rw [Nat.one_mul]
      exact scaled
  unfold binaryExponent
  simp only [one, guess]
  rw [if_pos fits]
  omega

/-- A whole number of 64 bits is rounded to a finite float. -/
theorem isFinite_roundRatio {n : Nat} (small : n < bound 64) : isFinite (roundRatio n 1) := by
  rw [roundRatio]
  split
  · exact isFinite_ofBits (by decide)
  · rename_i positive
    have size : n.log2 < 64 := (Nat.log2_lt positive).mpr small
    have below : n < bound (n.log2 + 1) := Nat.lt_log2_self
    rw [binaryExponent_one positive]
    -- Scaled by the exponent, the number has 53 bits, and rounding adds no more than one.
    have mantissa : (if 0 ≤ (n.log2 : Int) - 52 then
          divNearestEven n (1 * bound ((n.log2 : Int) - 52).toNat)
        else divNearestEven (n * bound (-((n.log2 : Int) - 52)).toNat) 1) ≤ bound 53 := by
      split
      · refine divNearestEven_le ?_
        have exponent : n.log2 + 1 = 53 + ((n.log2 : Int) - 52).toNat := by omega
        rw [exponent, bound_add] at below
        rw [Nat.one_mul]
        exact below
      · refine divNearestEven_le ?_
        have exponent : n.log2 + 1 + (-((n.log2 : Int) - 52)).toNat = 53 := by omega
        have scaled := Nat.mul_lt_mul_of_pos_right below
          (bound_pos (-((n.log2 : Int) - 52)).toNat)
        rw [← bound_add, exponent] at scaled
        rw [Nat.mul_one]
        exact scaled
    dsimp only
    generalize (if 0 ≤ (n.log2 : Int) - 52 then
        divNearestEven n (1 * bound ((n.log2 : Int) - 52).toNat)
      else divNearestEven (n * bound (-((n.log2 : Int) - 52)).toNat) 1) = m at mantissa ⊢
    split
    · exact isFinite_ofMantissa (Nat.pow_le_pow_right (by decide) (by decide)) (by omega) (by omega)
    · exact isFinite_ofMantissa mantissa (by omega) (by omega)

theorem isFinite_nearest {n : Nat} (small : n < bound 64) : isFinite (nearest n 0) := by
  have digits : (Nat.toDigits 10 n).length ≤ 20 :=
    (Nat.length_toDigits_le_iff (by decide) (by decide)).mpr (Nat.lt_trans small (by decide))
  rw [nearest]
  split
  · exact isFinite_ofBits (by decide)
  · rw [if_neg (by omega), if_pos (by decide)]
    have one : n * Nat.pow 10 (Int.toNat 0) = n := Nat.mul_one n
    rw [one]
    exact isFinite_roundRatio small

/-- The float of a number of 64 bits is finite. -/
theorem isFinite_ofInt {n : Int} (fits : fits64 n) : isFinite (ofInt n) := by
  rw [fits64, Bool.and_eq_true, decide_eq_true_eq, decide_eq_true_eq] at fits
  have small : n.natAbs < 18446744073709551616 := by omega
  exact isFinite_signed _ (isFinite_nearest small)

end ApiContract.Decimal
