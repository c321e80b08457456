import ApiContract.Proofs.Fallible
import ApiContract.Text.Utf8

/-!
# Reading back the bytes of a text

The bytes of a text are read as that text, and no other bytes are: what is read strictly has
exactly the bytes that were read.

## Main results

* `Utf8.encode_ofList` — the bytes of small characters
* `Utf8.front_encodeChar` — the bytes of a character are read as that character
* `Utf8.encodeChar_of_front` — what is read as a character are the bytes of that character
* `Utf8.decodeLossy_encode`, `Utf8.decode_encode` — the bytes of a text are read as that text
* `Utf8.decode?_eq_some_iff` — bytes are read as the text whose bytes they are
-/

namespace ApiContract.Utf8

section Front

variable {b c d : UInt8} {rest : List UInt8}

theorem secondByte_eq (b : UInt8) : secondByte b =
    if 0xC2 ≤ b.toNat ∧ b.toNat ≤ 0xDF then some (0x80, 0xBF, 1)
    else if b.toNat = 0xE0 then some (0xA0, 0xBF, 2)
    else if b.toNat = 0xED then some (0x80, 0x9F, 2)
    else if 0xE1 ≤ b.toNat ∧ b.toNat ≤ 0xEF then some (0x80, 0xBF, 2)
    else if b.toNat = 0xF0 then some (0x90, 0xBF, 3)
    else if 0xF1 ≤ b.toNat ∧ b.toNat ≤ 0xF3 then some (0x80, 0xBF, 3)
    else if b.toNat = 0xF4 then some (0x80, 0x8F, 3)
    else none := by
  simp [secondByte, UInt8.le_iff_toNat_le, ← UInt8.toNat_inj]

/-- What follows an allowed second byte are the bytes that are owed. -/
theorem front_of_secondByte {low high : UInt8} {extra : Nat} (lead : 0x80 ≤ b.toNat)
    (allowed : secondByte b = some (low, high, extra)) (above : low.toNat ≤ c.toNat)
    (below : c.toNat ≤ high.toNat) :
    front b (c :: rest) = readTails (addTail (leadBits b extra) c) 1 (extra - 1) rest := by
  have long : ¬ b < 0x80 := by
    rw [UInt8.lt_iff_toNat_lt]
    exact Nat.not_lt.mpr lead
  rw [front, if_neg long, allowed]
  simp [UInt8.le_iff_toNat_le, above, below]

theorem readTails_cons {acc taken owed : Nat} (least : 0x80 ≤ d.toNat) (most : d.toNat ≤ 0xBF) :
    readTails acc taken (owed + 1) (d :: rest) =
      readTails (addTail acc d) (taken + 1) owed rest := by
  rw [readTails, isTail, if_pos]
  simp [UInt8.le_iff_toNat_le, least, most]

/-- A character of two bytes. -/
theorem front_two (first : 0xC2 ≤ b.toNat ∧ b.toNat ≤ 0xDF)
    (second : 0x80 ≤ c.toNat ∧ c.toNat ≤ 0xBF) :
    front b (c :: rest) = .char (Char.ofNat (b.toNat % 32 * 64 + (c.toNat - 0x80))) 1 := by
  have allowed : secondByte b = some (0x80, 0xBF, 1) := by rw [secondByte_eq, if_pos first]
  rw [front_of_secondByte (by omega) allowed second.1 second.2]
  rfl

/-- A character of three bytes: after the first and after the fourteenth of the first bytes,
half of the second bytes are excluded. -/
theorem front_three {d : UInt8} (first : 0xE0 ≤ b.toNat ∧ b.toNat ≤ 0xEF)
    (second : 0x80 ≤ c.toNat ∧ c.toNat ≤ 0xBF) (third : 0x80 ≤ d.toNat ∧ d.toNat ≤ 0xBF)
    (least : b.toNat = 0xE0 → 0xA0 ≤ c.toNat) (surrogate : b.toNat = 0xED → c.toNat ≤ 0x9F) :
    front b (c :: d :: rest) = .char (Char.ofNat
      ((b.toNat % 16 * 64 + (c.toNat - 0x80)) * 64 + (d.toNat - 0x80))) 2 := by
  have allowed : ∃ low high, secondByte b = some (low, high, 2) ∧
      low.toNat ≤ c.toNat ∧ c.toNat ≤ high.toNat := by
    rw [secondByte_eq, if_neg (by omega)]
    split
    · exact ⟨_, _, rfl, least ‹_›, second.2⟩
    · split
      · exact ⟨_, _, rfl, second.1, surrogate ‹_›⟩
      · rw [if_pos (by omega)]
        exact ⟨_, _, rfl, second.1, second.2⟩
  obtain ⟨low, high, allowed, above, below⟩ := allowed
  rw [front_of_secondByte (by omega) allowed above below, readTails_cons third.1 third.2]
  rfl

/-- A character of four bytes: after the first and the last of the first bytes, some of the
second bytes are excluded. -/
theorem front_four {d e : UInt8} (first : 0xF0 ≤ b.toNat ∧ b.toNat ≤ 0xF4)
    (second : 0x80 ≤ c.toNat ∧ c.toNat ≤ 0xBF) (third : 0x80 ≤ d.toNat ∧ d.toNat ≤ 0xBF)
    (fourth : 0x80 ≤ e.toNat ∧ e.toNat ≤ 0xBF) (least : b.toNat = 0xF0 → 0x90 ≤ c.toNat)
    (most : b.toNat = 0xF4 → c.toNat ≤ 0x8F) :
    front b (c :: d :: e :: rest) = .char (Char.ofNat
      (((b.toNat % 8 * 64 + (c.toNat - 0x80)) * 64 + (d.toNat - 0x80)) * 64 +
        (e.toNat - 0x80))) 3 := by
  have allowed : ∃ low high, secondByte b = some (low, high, 3) ∧
      low.toNat ≤ c.toNat ∧ c.toNat ≤ high.toNat := by
    rw [secondByte_eq, if_neg (by omega), if_neg (by omega), if_neg (by omega),
      if_neg (by omega)]
    split
    · exact ⟨_, _, rfl, least ‹_›, second.2⟩
    · split
      · exact ⟨_, _, rfl, second.1, second.2⟩
      · rw [if_pos (by omega)]
        exact ⟨_, _, rfl, second.1, most (by omega)⟩
  obtain ⟨low, high, allowed, above, below⟩ := allowed
  rw [front_of_secondByte (by omega) allowed above below, readTails_cons third.1 third.2,
    readTails_cons fourth.1 fourth.2]
  rfl

end Front

private theorem toNat_ofNat {n : Nat} (small : n < 256) : (UInt8.ofNat n).toNat = n := by
  rw [UInt8.toNat_ofNat']
  exact Nat.mod_eq_of_lt small

private theorem encodeChar_eq (ch : Char) : String.utf8EncodeChar ch =
    if ch.toNat ≤ 0x7F then [.ofNat ch.toNat]
    else if ch.toNat ≤ 0x7FF then
      [.ofNat (ch.toNat / 64 % 32 + 0xC0), .ofNat (ch.toNat % 64 + 0x80)]
    else if ch.toNat ≤ 0xFFFF then
      [.ofNat (ch.toNat / 4096 % 16 + 0xE0), .ofNat (ch.toNat / 64 % 64 + 0x80),
        .ofNat (ch.toNat % 64 + 0x80)]
    else
      [.ofNat (ch.toNat / 262144 % 8 + 0xF0), .ofNat (ch.toNat / 4096 % 64 + 0x80),
        .ofNat (ch.toNat / 64 % 64 + 0x80), .ofNat (ch.toNat % 64 + 0x80)] :=
  rfl

/-- A byte of a character is its own number, or none of the small ones. -/
theorem toNat_of_mem_encodeChar {ch : Char} {b : UInt8} (member : b ∈ String.utf8EncodeChar ch) :
    ch.toNat = b.toNat ∨ 0x80 ≤ b.toNat := by
  have within (n : Nat) (small : n < 256) (large : 0x80 ≤ n) (same : b = .ofNat n) :
      0x80 ≤ b.toNat := by
    rw [same, toNat_ofNat small]
    exact large
  rw [encodeChar_eq] at member
  split at member
  · rename_i small
    obtain rfl := List.mem_singleton.mp member
    exact .inl (toNat_ofNat (by omega)).symm
  · refine .inr ?_
    split at member
    · rcases List.mem_pair.mp member with same | same
      · exact within _ (by omega) (by omega) same
      · exact within _ (by omega) (by omega) same
    · split at member
      · simp only [List.mem_cons, List.not_mem_nil, or_false] at member
        rcases member with same | same | same
        · exact within _ (by omega) (by omega) same
        · exact within _ (by omega) (by omega) same
        · exact within _ (by omega) (by omega) same
      · simp only [List.mem_cons, List.not_mem_nil, or_false] at member
        rcases member with same | same | same | same
        · exact within _ (by omega) (by omega) same
        · exact within _ (by omega) (by omega) same
        · exact within _ (by omega) (by omega) same
        · exact within _ (by omega) (by omega) same

/-- A small character is a single byte, its own number. -/
theorem encodeChar_of_small {ch : Char} (small : ch.toNat < 128) :
    String.utf8EncodeChar ch = [UInt8.ofNat ch.toNat] := by
  rw [encodeChar_eq, if_pos (by omega)]

/-- The bytes of small characters are their numbers. -/
theorem encode_ofList {cs : List Char} (small : ∀ c ∈ cs, c.toNat < 128) :
    encode (String.ofList cs) = cs.map fun c => UInt8.ofNat c.toNat := by
  rw [encode, String.toList_ofList]
  induction cs with
  | nil => rfl
  | cons c rest ih =>
    rw [List.forall_mem_cons] at small
    rw [List.flatMap_cons, encodeChar_of_small small.1, ih small.2]
    rfl

/-- The bytes of a character are read as that character. -/
theorem front_encodeChar (ch : Char) (rest : List UInt8) :
    ∃ b more, String.utf8EncodeChar ch = b :: more ∧
      front b (more ++ rest) = .char ch more.length := by
  have valid : ch.toNat < 0xD800 ∨ 0xDFFF < ch.toNat ∧ ch.toNat < 0x110000 := ch.valid
  have same : Char.ofNat ch.toNat = ch := Char.ofNat_toNat ch
  rw [encodeChar_eq]
  generalize ch.toNat = v at valid same ⊢
  -- the last byte, the one before it, and the one before that
  have last : (UInt8.ofNat (v % 64 + 0x80)).toNat = v % 64 + 0x80 := toNat_ofNat (by omega)
  have middle : (UInt8.ofNat (v / 64 % 64 + 0x80)).toNat = v / 64 % 64 + 0x80 :=
    toNat_ofNat (by omega)
  have early : (UInt8.ofNat (v / 4096 % 64 + 0x80)).toNat = v / 4096 % 64 + 0x80 :=
    toNat_ofNat (by omega)
  split
  · refine ⟨_, [], rfl, ?_⟩
    have first : (UInt8.ofNat v).toNat = v := toNat_ofNat (by omega)
    have short : UInt8.ofNat v < 0x80 := by
      rw [UInt8.lt_iff_toNat_lt, first]
      show v < 128
      omega
    rw [front, if_pos short, first, same]
    rfl
  · split
    · refine ⟨_, _, rfl, ?_⟩
      have first : (UInt8.ofNat (v / 64 % 32 + 0xC0)).toNat = v / 64 % 32 + 0xC0 :=
        toNat_ofNat (by omega)
      have value : (v / 64 % 32 + 0xC0) % 32 * 64 + (v % 64 + 0x80 - 0x80) = v := by omega
      rw [List.cons_append, front_two (by omega) (by omega), first, last, value, same]
      rfl
    · split
      · refine ⟨_, _, rfl, ?_⟩
        have first : (UInt8.ofNat (v / 4096 % 16 + 0xE0)).toNat = v / 4096 % 16 + 0xE0 :=
          toNat_ofNat (by omega)
        have value : ((v / 4096 % 16 + 0xE0) % 16 * 64 + (v / 64 % 64 + 0x80 - 0x80)) * 64 +
            (v % 64 + 0x80 - 0x80) = v := by omega
        rw [List.cons_append, List.cons_append, front_three (by omega) (by omega) (by omega)
          (by omega) (by omega), first, middle, last, value, same]
        rfl
      · refine ⟨_, _, rfl, ?_⟩
        have first : (UInt8.ofNat (v / 262144 % 8 + 0xF0)).toNat = v / 262144 % 8 + 0xF0 :=
          toNat_ofNat (by omega)
        have value : (((v / 262144 % 8 + 0xF0) % 8 * 64 + (v / 4096 % 64 + 0x80 - 0x80)) * 64 +
            (v / 64 % 64 + 0x80 - 0x80)) * 64 + (v % 64 + 0x80 - 0x80) = v := by omega
        rw [List.cons_append, List.cons_append, List.cons_append, front_four (by omega) (by omega)
          (by omega) (by omega) (by omega) (by omega), first, early, middle, last, value, same]
        rfl

/-- The bytes of a text are read as that text. -/
theorem decodeLossy_encode (s : String) : decodeLossy (encode s) = s := by
  have read : ∀ cs : List Char, decodeLossyChars (cs.flatMap String.utf8EncodeChar) = cs := by
    intro cs
    induction cs with
    | nil => rw [List.flatMap_nil, decodeLossyChars]
    | cons ch rest ih =>
      obtain ⟨b, more, bytes, here⟩ :=
        front_encodeChar ch (rest.flatMap String.utf8EncodeChar)
      rw [List.flatMap_cons, bytes, List.cons_append, decodeLossyChars, here]
      dsimp only
      rw [List.drop_left, ih]
  rw [decodeLossy, encode, read, String.ofList_toList]

/-- The bytes of a text are well-formed, and are read as that text. -/
theorem decode_encode (s : String) : decode (encode s) = .ok s := by
  have read : ∀ (cs : List Char) (offset : Nat),
      decodeFrom offset (cs.flatMap String.utf8EncodeChar) = .ok cs := by
    intro cs
    induction cs with
    | nil =>
      intro offset
      rw [List.flatMap_nil, decodeFrom]
    | cons ch rest ih =>
      intro offset
      obtain ⟨b, more, bytes, here⟩ :=
        front_encodeChar ch (rest.flatMap String.utf8EncodeChar)
      rw [List.flatMap_cons, bytes, List.cons_append, decodeFrom, here]
      dsimp only
      rw [List.drop_left, ih]
      rfl
  rw [decode, encode, read]
  exact congrArg Except.ok String.ofList_toList

theorem decode?_encode (s : String) : decode? (encode s) = some s := by
  rw [decode?, decode_encode]
  rfl

theorem encode_injective : Function.Injective encode := by
  intro s t same
  have read := decode?_encode s
  rw [same, decode?_encode] at read
  exact (Option.some.inj read).symm

theorem encode_append (s t : String) : encode (s ++ t) = encode s ++ encode t := by
  rw [encode, String.toList_append, List.flatMap_append]
  rfl

/-- Characters whose bytes start with those of others start with these. -/
theorem exists_of_flatMap_encodeChar {cs lead : List Char} {tail : List UInt8}
    (same : cs.flatMap String.utf8EncodeChar = lead.flatMap String.utf8EncodeChar ++ tail) :
    ∃ rest, cs = lead ++ rest := by
  induction lead generalizing cs with
  | nil => exact ⟨cs, rfl⟩
  | cons l lead ih =>
    rw [List.flatMap_cons, List.append_assoc] at same
    obtain ⟨b, more, bytes, here⟩ :=
      front_encodeChar l (lead.flatMap String.utf8EncodeChar ++ tail)
    cases cs with
    | nil =>
      rw [bytes] at same
      cases same
    | cons c cs =>
      obtain ⟨d, others, bytes', there⟩ := front_encodeChar c (cs.flatMap String.utf8EncodeChar)
      -- What is read in front of the same bytes is the same character.
      have read := same
      rw [List.flatMap_cons, bytes, bytes', List.cons_append, List.cons_append,
        List.cons.injEq] at read
      rw [read.1, read.2, here] at there
      obtain ⟨rfl, _⟩ := Front.char.inj there
      rw [List.flatMap_cons] at same
      obtain ⟨rest, rfl⟩ := ih (List.append_cancel_left same)
      exact ⟨rest, rfl⟩

/-! ### Bytes that are read -/

private theorem toNat_charOfNat {n : Nat} (valid : n.isValidChar) : (Char.ofNat n).toNat = n := by
  rw [Char.ofNat, dif_pos valid]
  rfl

private theorem ofNat_eq {n : Nat} {b : UInt8} (same : n = b.toNat) : UInt8.ofNat n = b := by
  rw [same, UInt8.ofNat_toNat]

section Exact

variable {b c d e : UInt8}

theorem encodeChar_two (first : 0xC2 ≤ b.toNat ∧ b.toNat ≤ 0xDF)
    (second : 0x80 ≤ c.toNat ∧ c.toNat ≤ 0xBF) :
    String.utf8EncodeChar (Char.ofNat (b.toNat % 32 * 64 + (c.toNat - 0x80))) = [b, c] := by
  generalize value : b.toNat % 32 * 64 + (c.toNat - 0x80) = v
  have valid : v.isValidChar := .inl (by omega)
  rw [encodeChar_eq, toNat_charOfNat valid, if_neg (by omega), if_pos (by omega),
    ofNat_eq (b := b) (by omega), ofNat_eq (b := c) (by omega)]

theorem encodeChar_three (first : 0xE0 ≤ b.toNat ∧ b.toNat ≤ 0xEF)
    (second : 0x80 ≤ c.toNat ∧ c.toNat ≤ 0xBF) (third : 0x80 ≤ d.toNat ∧ d.toNat ≤ 0xBF)
    (least : b.toNat = 0xE0 → 0xA0 ≤ c.toNat) (surrogate : b.toNat = 0xED → c.toNat ≤ 0x9F) :
    String.utf8EncodeChar (Char.ofNat
      ((b.toNat % 16 * 64 + (c.toNat - 0x80)) * 64 + (d.toNat - 0x80))) = [b, c, d] := by
  generalize value : (b.toNat % 16 * 64 + (c.toNat - 0x80)) * 64 + (d.toNat - 0x80) = v
  -- The excluded second bytes are those of too small numbers and of surrogates.
  have valid : v.isValidChar := by
    unfold Nat.isValidChar
    omega
  rw [encodeChar_eq, toNat_charOfNat valid, if_neg (by omega), if_neg (by omega),
    if_pos (by omega), ofNat_eq (b := b) (by omega), ofNat_eq (b := c) (by omega),
    ofNat_eq (b := d) (by omega)]

theorem encodeChar_four (first : 0xF0 ≤ b.toNat ∧ b.toNat ≤ 0xF4)
    (second : 0x80 ≤ c.toNat ∧ c.toNat ≤ 0xBF) (third : 0x80 ≤ d.toNat ∧ d.toNat ≤ 0xBF)
    (fourth : 0x80 ≤ e.toNat ∧ e.toNat ≤ 0xBF) (least : b.toNat = 0xF0 → 0x90 ≤ c.toNat)
    (most : b.toNat = 0xF4 → c.toNat ≤ 0x8F) :
    String.utf8EncodeChar (Char.ofNat (((b.toNat % 8 * 64 + (c.toNat - 0x80)) * 64 +
      (d.toNat - 0x80)) * 64 + (e.toNat - 0x80))) = [b, c, d, e] := by
  generalize value : ((b.toNat % 8 * 64 + (c.toNat - 0x80)) * 64 + (d.toNat - 0x80)) * 64 +
    (e.toNat - 0x80) = v
  have valid : v.isValidChar := by
    unfold Nat.isValidChar
    omega
  rw [encodeChar_eq, toNat_charOfNat valid, if_neg (by omega), if_neg (by omega),
    if_neg (by omega), ofNat_eq (b := b) (by omega), ofNat_eq (b := c) (by omega),
    ofNat_eq (b := d) (by omega), ofNat_eq (b := e) (by omega)]

/-- What a first byte says of the second, and of how many bytes there are after it. -/
theorem secondByte_cases {low high : UInt8} {extra : Nat}
    (allowed : secondByte b = some (low, high, extra))
    (within : low.toNat ≤ c.toNat ∧ c.toNat ≤ high.toNat) :
    (0x80 ≤ c.toNat ∧ c.toNat ≤ 0xBF) ∧
      ((extra = 1 ∧ 0xC2 ≤ b.toNat ∧ b.toNat ≤ 0xDF) ∨
        (extra = 2 ∧ (0xE0 ≤ b.toNat ∧ b.toNat ≤ 0xEF) ∧ (b.toNat = 0xE0 → 0xA0 ≤ c.toNat) ∧
          (b.toNat = 0xED → c.toNat ≤ 0x9F)) ∨
        (extra = 3 ∧ (0xF0 ≤ b.toNat ∧ b.toNat ≤ 0xF4) ∧ (b.toNat = 0xF0 → 0x90 ≤ c.toNat) ∧
          (b.toNat = 0xF4 → c.toNat ≤ 0x8F))) := by
  rw [secondByte_eq] at allowed
  repeat' split at allowed
  all_goals simp only [Option.some.injEq, Prod.mk.injEq, reduceCtorEq] at allowed
  -- one case is left for each kind of first byte
  all_goals
    obtain ⟨rfl, rfl, rfl⟩ := allowed
    simp at within
    omega

/-- The bytes that a character owes are there, and continue it. -/
theorem exists_of_readTails {acc taken owed n : Nat} {bytes : List UInt8} {ch : Char}
    (read : readTails acc taken owed bytes = .char ch n) :
    ∃ more later, bytes = more ++ later ∧ more.length = owed ∧ n = taken + owed ∧
      (∀ d ∈ more, 0x80 ≤ d.toNat ∧ d.toNat ≤ 0xBF) ∧
      ch = Char.ofNat (more.foldl addTail acc) := by
  induction owed generalizing acc taken bytes with
  | zero =>
    rw [readTails] at read
    obtain ⟨rfl, rfl⟩ := Front.char.inj read
    exact ⟨[], bytes, by simp⟩
  | succ owed ih =>
    cases bytes with
    | nil => cases read
    | cons d rest =>
      rw [readTails] at read
      split at read
      · rename_i tail
        obtain ⟨more, later, rfl, length, total, tails, same⟩ := ih read
        have bounds : 0x80 ≤ d.toNat ∧ d.toNat ≤ 0xBF := by
          simpa [isTail, UInt8.le_iff_toNat_le] using tail
        refine ⟨d :: more, later, rfl, by rw [List.length_cons, length], by omega,
          List.forall_mem_cons.mpr ⟨bounds, tails⟩, ?_⟩
        rw [List.foldl_cons]
        exact same
      · cases read

/-- What is read as a character are the bytes of that character. -/
theorem encodeChar_of_front {rest : List UInt8} {ch : Char} {n : Nat}
    (read : front b rest = .char ch n) :
    ∃ more later, rest = more ++ later ∧ more.length = n ∧
      String.utf8EncodeChar ch = b :: more := by
  by_cases short : b < 0x80
  · rw [front, if_pos short] at read
    obtain ⟨rfl, rfl⟩ := Front.char.inj read
    have small : b.toNat < 128 := UInt8.lt_iff_toNat_lt.mp short
    have same : (Char.ofNat b.toNat).toNat = b.toNat := toNat_charOfNat (.inl (by omega))
    refine ⟨[], rest, rfl, rfl, ?_⟩
    rw [encodeChar_of_small (same.symm ▸ small), same, UInt8.ofNat_toNat]
  · rw [front, if_neg short] at read
    cases allowed : secondByte b with
    | none =>
      rw [allowed] at read
      cases read
    | some bounds =>
      obtain ⟨low, high, extra⟩ := bounds
      rw [allowed] at read
      cases rest with
      | nil => cases read
      | cons c rest =>
        dsimp only at read
        split at read
        · rename_i within
          have within : low.toNat ≤ c.toNat ∧ c.toNat ≤ high.toNat := by
            simpa [UInt8.le_iff_toNat_le] using within
          obtain ⟨more, later, rfl, length, rfl, tails, rfl⟩ := exists_of_readTails read
          obtain ⟨second, kinds⟩ := secondByte_cases allowed within
          refine ⟨c :: more, later, rfl, ?_, ?_⟩
          · rw [List.length_cons, length]
            omega
          · rcases kinds with ⟨rfl, first⟩ | ⟨rfl, first, least, surrogate⟩ |
              ⟨rfl, first, least, most⟩
            · obtain rfl := List.length_eq_zero_iff.mp length
              exact encodeChar_two first second
            · obtain ⟨d, rfl⟩ := List.length_eq_one_iff.mp length
              rw [List.forall_mem_singleton] at tails
              exact encodeChar_three first second tails least surrogate
            · obtain ⟨d, e, rfl⟩ := List.length_eq_two.mp length
              simp only [List.forall_mem_cons] at tails
              exact encodeChar_four first second tails.1 tails.2.1 least most
        · cases read

end Exact

/-- What is read as characters are the bytes of these characters. -/
theorem encode_of_decodeFrom {offset : Nat} {bytes : List UInt8} {cs : List Char}
    (read : decodeFrom offset bytes = .ok cs) : cs.flatMap String.utf8EncodeChar = bytes := by
  induction offset, bytes using decodeFrom.induct generalizing cs with
  | case1 offset =>
    rw [decodeFrom] at read
    obtain rfl := Except.ok.inj read
    rfl
  | case2 offset b rest ch extra here ih =>
    rw [decodeFrom, here] at read
    obtain ⟨others, later, rfl⟩ := map_eq_ok.mp read
    obtain ⟨more, left, rfl, rfl, bytes⟩ := encodeChar_of_front here
    rw [List.flatMap_cons, bytes, ih later, List.drop_left]
    rfl
  | case3 offset b rest extra here =>
    rw [decodeFrom, here] at read
    cases read
  | case4 offset b rest here =>
    rw [decodeFrom, here] at read
    cases read

/-- Bytes are read as a text exactly when they are the bytes of that text. -/
theorem decode?_eq_some_iff {bytes : List UInt8} {s : String} :
    decode? bytes = some s ↔ encode s = bytes := by
  constructor
  · intro read
    rw [decode?, toOption_eq_some, decode] at read
    obtain ⟨cs, chars, rfl⟩ := map_eq_ok.mp read
    rw [encode, String.toList_ofList, encode_of_decodeFrom chars]
  · rintro rfl
    exact decode?_encode s

/-- Bytes are not read exactly when they are the bytes of no text. -/
theorem decode?_eq_none_iff {bytes : List UInt8} :
    decode? bytes = none ↔ ∀ s, encode s ≠ bytes := by
  rw [Option.eq_none_iff_forall_ne_some]
  exact forall_congr' fun s => not_congr decode?_eq_some_iff

end ApiContract.Utf8
