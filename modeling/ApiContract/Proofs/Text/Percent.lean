import ApiContract.Proofs.Text.Hex
import ApiContract.Proofs.Text.Utf8
import ApiContract.Text.Percent

/-!
# Reading back percent-coded texts

A percent-coded text consists of characters of one byte each. Those that stand for themselves are
left alone when the text is read, and the digits of every other byte give the byte again, so that
any text comes back from its code, whatever characters it has. A code has no slash, and it is not
empty unless the text is.

## Main results

* `Percent.decode_encode` — a text is read back from its code
* `Percent.slash_not_mem_encode`, `Percent.encode_ne_empty` — a code is one segment of a path
-/

namespace ApiContract.Percent

variable {b : UInt8} {bytes : List UInt8} {c : Char} {s : String}

/-! ### Reading bytes -/

theorem hexValue?_capital {n : Nat} (small : n < 16) :
    hexValue? (UInt8.ofNat (Hex.capital n).toNat) = some n := by
  have all : ∀ n < 16, hexValue? (UInt8.ofNat (Hex.capital n).toNat) = some n := by decide
  exact all n small

/-- The two digits of a byte stand for it. -/
theorem pair?_capital (b : UInt8) :
    pair? (UInt8.ofNat (Hex.capital (b.toNat / 16)).toNat)
      (UInt8.ofNat (Hex.capital (b.toNat % 16)).toNat) = some b := by
  have below : b.toNat < 256 := b.toNat_lt
  have whole : b.toNat / 16 * 16 + b.toNat % 16 = b.toNat := by omega
  rw [pair?, hexValue?_capital (by omega), hexValue?_capital (by omega)]
  simp only [Option.bind_eq_bind, Option.bind_some, whole, UInt8.ofNat_toNat]
  rfl

theorem decodeBytes_cons (plain : b ≠ 0x25) (bytes : List UInt8) :
    decodeBytes (b :: bytes) = b :: decodeBytes bytes := by
  rw [decodeBytes]
  intro high low rest same
  exact absurd same plain

/-! ### Writing bytes -/

/-- The characters that a byte is written as. -/
def written (b : UInt8) : List Char :=
  if isUnreserved b then [Char.ofNat b.toNat] else writeByte b

theorem encode_eq (s : String) :
    encode s = String.ofList ((Utf8.encode s).flatMap written) := rfl

/-- A byte that stands for itself is small, and no percent sign or slash. -/
theorem isUnreserved_bounds (plain : isUnreserved b) :
    b.toNat < 128 ∧ b.toNat ≠ 0x25 ∧ b.toNat ≠ 0x2F := by
  simp [isUnreserved, UInt8.le_iff_toNat_le, ← UInt8.toNat_inj] at plain
  omega

private theorem toNat_ofNat {n : Nat} (small : n < 128) : (Char.ofNat n).toNat = n := by
  have all : ∀ n < 128, (Char.ofNat n).toNat = n := by decide
  exact all n small

theorem mem_writeByte (member : c ∈ writeByte b) : c = '%' ∨ ∃ n < 16, c = Hex.capital n := by
  have below : b.toNat < 256 := b.toNat_lt
  simp only [writeByte, List.mem_cons, List.not_mem_nil, or_false] at member
  rcases member with sign | high | low
  · exact .inl sign
  · exact .inr ⟨_, by omega, high⟩
  · exact .inr ⟨_, by omega, low⟩

/-- What a byte is written as are characters of one byte each, without slash. -/
theorem mem_written (member : c ∈ written b) : c.toNat < 128 ∧ c ≠ '/' := by
  rw [written] at member
  split at member
  · rename_i plain
    obtain ⟨small, _, other⟩ := isUnreserved_bounds plain
    obtain rfl := List.mem_singleton.mp member
    rw [toNat_ofNat small]
    refine ⟨small, fun same => other ?_⟩
    rw [← toNat_ofNat small, same]
    rfl
  · have digits : ∀ n < 16, (Hex.capital n).toNat < 128 ∧ Hex.capital n ≠ '/' := by decide
    rcases mem_writeByte member with rfl | ⟨n, small, rfl⟩
    · decide
    · exact digits n small

/-- The bytes of what a byte is written as are read as that byte. -/
theorem decodeBytes_written (b : UInt8) (bytes : List UInt8) :
    decodeBytes ((written b).map (fun c => UInt8.ofNat c.toNat) ++ bytes) =
      b :: decodeBytes bytes := by
  rw [written]
  split
  · rename_i plain
    obtain ⟨small, other, _⟩ := isUnreserved_bounds plain
    rw [List.map_singleton, toNat_ofNat small, UInt8.ofNat_toNat, List.singleton_append]
    exact decodeBytes_cons (fun same => other (congrArg UInt8.toNat same)) bytes
  · -- The sign has the next two characters read as digits.
    have read := pair?_capital b
    simp only [writeByte, List.map_cons, List.map_nil, List.cons_append, List.nil_append]
    rw [show UInt8.ofNat '%'.toNat = 0x25 from rfl, decodeBytes, read]

/-! ### Texts -/

theorem small_encode : ∀ c ∈ (Utf8.encode s).flatMap written, c.toNat < 128 := by
  intro c member
  obtain ⟨b, _, inside⟩ := List.mem_flatMap.mp member
  exact (mem_written inside).1

/-- A text is read back from its code. -/
theorem decode_encode (s : String) : decode (encode s) = .ok s := by
  have read (bytes : List UInt8) :
      decodeBytes ((bytes.flatMap written).map fun c => UInt8.ofNat c.toNat) = bytes := by
    induction bytes with
    | nil => rfl
    | cons b rest ih => rw [List.flatMap_cons, List.map_append, decodeBytes_written, ih]
  rw [decode, encode_eq, Utf8.encode_ofList small_encode, read]
  exact Utf8.decode_encode s

/-- A code has no slash. -/
theorem slash_not_mem_encode (s : String) : '/' ∉ (encode s).toList := by
  rw [encode_eq, String.toList_ofList]
  intro member
  obtain ⟨b, _, inside⟩ := List.mem_flatMap.mp member
  exact (mem_written inside).2 rfl

/-- The code of a text that is not empty is not empty. -/
theorem encode_ne_empty (some : s ≠ "") : encode s ≠ "" := by
  intro empty
  have same : decode (encode s) = decode (encode "") := by rw [empty]; rfl
  rw [decode_encode, decode_encode] at same
  exact some (Except.ok.inj same)

end ApiContract.Percent
