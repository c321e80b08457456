import ApiContract.Decimal.Shortest
import ApiContract.Proofs.Decimal.Plain

/-!
# Texts of floats are numbers, and no integers

Whatever layout a float is written in, its text is one that readers of numbers accept: digits,
then perhaps a point with digits after it, then perhaps an exponent. A float that is not finite
is written as a word which they accept as well. No such text is an integer, since there is
always a point, an exponent or a word in it.

## Main definitions

* `Decimal.Exponent`, `Decimal.Numeral` — what numbers without a sign consist of

## Main results

* `Decimal.unspaced_text` — the text of a float has no blanks
* `Decimal.isSome_readFloat?_text` — it is read as a float
* `Decimal.readInteger?_text` — it is not read as an integer
-/

namespace ApiContract.Decimal

open Text (Unspaced isBlank)

/-! ### Numbers in text -/

/-- No exponent, or a mark with a sign and digits. -/
inductive Exponent : List Char → Prop
  | absent : Exponent []
  | marked (sign : Char) (digits : List Char) (isSign : sign = '+' ∨ sign = '-')
      (all : ∀ c ∈ digits, isDigit c) (some : digits ≠ []) : Exponent ('e' :: sign :: digits)

/-- Digits with an exponent, or with a point and digits after it, and then perhaps with an
exponent. -/
inductive Numeral : List Char → Prop
  | whole (digits exponent : List Char) (all : ∀ c ∈ digits, isDigit c) (some : digits ≠ [])
      (scaled : Exponent exponent) (marked : exponent ≠ []) : Numeral (digits ++ exponent)
  | fraction (digits places exponent : List Char) (all : ∀ c ∈ digits, isDigit c)
      (some : digits ≠ []) (after : ∀ c ∈ places, isDigit c) (scaled : Exponent exponent) :
      Numeral (digits ++ '.' :: (places ++ exponent))

variable {cs digits rest : List Char} {c : Char}

theorem takeSign_of_sign (isSign : c = '+' ∨ c = '-') : (takeSign (c :: rest)).2 = rest := by
  rcases isSign with rfl | rfl <;> rfl

theorem Exponent.isSome_read (exponent : Exponent cs) : (readExponent? cs).isSome := by
  cases exponent with
  | absent => rfl
  | marked sign digits isSign all some =>
    rw [readExponent?, if_pos (.inl rfl)]
    dsimp only
    rw [takeSign_of_sign isSign, if_neg]
    · rfl
    · simpa [List.isEmpty_iff] using ⟨some, all⟩

theorem Exponent.noDigit (exponent : Exponent cs) : NoDigit cs := by
  cases exponent with
  | absent => exact fun c first => (nomatch first)
  | marked =>
    intro c first
    obtain rfl := Option.some.inj first
    decide

theorem Exponent.unspaced (exponent : Exponent cs) : Unspaced cs := by
  cases exponent with
  | absent => exact .nil
  | marked sign digits isSign all =>
    have blank : isBlank sign = false := by rcases isSign with rfl | rfl <;> decide
    exact .cons (by decide) (.cons blank fun c member => isBlank_of_isDigit (all c member))

theorem dropWhile_digits (all : ∀ c ∈ digits, isDigit c) (stop : NoDigit rest) :
    (digits ++ rest).dropWhile isDigit = rest := by
  rw [List.dropWhile_append_of_pos all]
  cases rest with
  | nil => rfl
  | cons c more => rw [List.dropWhile_cons, if_neg (by simp [stop c rfl])]

theorem Numeral.isSome_readUnsigned? (numeral : Numeral cs) : (readUnsigned? cs).isSome := by
  cases numeral with
  | whole digits exponent all some scaled marked =>
    have read := scaled.isSome_read
    rw [readUnsigned?, takeWhile_digits all scaled.noDigit, dropWhile_digits all scaled.noDigit]
    cases scaled with
    | absent => exact absurd rfl marked
    | marked sign more => simp [some, read]
  | fraction digits places exponent all some after scaled =>
    have stop : NoDigit ('.' :: (places ++ exponent)) := by
      intro c first
      obtain rfl := Option.some.inj first
      decide
    rw [readUnsigned?, takeWhile_digits all stop, dropWhile_digits all stop]
    simp [takeWhile_digits after scaled.noDigit, dropWhile_digits after scaled.noDigit, some,
      scaled.isSome_read]

/-! ### Layouts -/

theorem numeral_positional (all : ∀ c ∈ digits, isDigit c) (some : digits ≠ []) (exponent : Int) :
    Numeral (positional digits exponent).toList := by
  have zeros (n : Nat) : ∀ c ∈ List.replicate n '0', isDigit c := by
    intro c member
    rw [List.eq_of_mem_replicate member]
    decide
  have zero : ∀ c ∈ ['0'], isDigit c := zeros 1
  rw [positional]
  split
  · have spelled := Numeral.fraction (digits ++ List.replicate exponent.toNat '0') ['0'] []
      (List.forall_mem_append.mpr ⟨all, zeros _⟩) (by simp [some]) zero .absent
    simpa using spelled
  · dsimp only
    split
    · have spelled := Numeral.fraction ['0']
        (List.replicate ((-exponent).toNat - digits.length) '0' ++ digits) [] zero (by simp)
        (List.forall_mem_append.mpr ⟨zeros _, all⟩) .absent
      simpa using spelled
    · rename_i long
      have front : digits.take (digits.length - (-exponent).toNat) ≠ [] := by
        simp only [ne_eq, List.take_eq_nil_iff, some, or_false]
        omega
      have spelled := Numeral.fraction _ (digits.drop (digits.length - (-exponent).toNat)) []
        (fun c member => all c (List.mem_of_mem_take member)) front
        (fun c member => all c (List.mem_of_mem_drop member)) .absent
      simpa using spelled

theorem numeral_scientific (all : ∀ c ∈ digits, isDigit c) (some : digits ≠ []) (exponent : Int) :
    Numeral (numberLayout.scientific digits exponent).toList := by
  have power : ∀ c ∈ Nat.toDigits 10 exponent.natAbs, isDigit c :=
    fun c => isDigit_of_mem_toDigits
  have scaled : Exponent ('e' :: (if exponent < 0 then '-' else '+') ::
      Nat.toDigits 10 exponent.natAbs) := by
    refine .marked _ _ ?_ power Nat.toDigits_ne_nil
    split
    · exact .inr rfl
    · exact .inl rfl
  have sign : (if exponent < 0 then "-" else if numberLayout.plusSign then "+" else "").toList =
      [if exponent < 0 then '-' else '+'] := by
    split <;> rfl
  have mark : numberLayout.exponentMark.toList = ['e'] := rfl
  have number : (toString exponent.natAbs).toList = Nat.toDigits 10 exponent.natAbs := by
    rw [Nat.toString_eq_repr, Nat.toList_repr]
  unfold Layout.scientific
  simp only [String.toList_append, sign, mark, number]
  cases digits with
  | nil => exact absurd rfl some
  | cons d rest =>
    obtain ⟨first, later⟩ := List.forall_mem_cons.mp all
    have one : ∀ c ∈ [d], isDigit c := List.forall_mem_singleton.mpr first
    cases rest with
    | nil => simpa using Numeral.whole [d] _ one (by simp) scaled (by simp)
    | cons e more => simpa using Numeral.fraction [d] (e :: more) _ one (by simp) later scaled

/-! ### Texts of floats -/

/-- The text of a float is a number or a word for what is no number, perhaps behind a sign. -/
theorem exists_body_text (x : Float) : ∃ body : List Char,
    (Numeral body ∨ body = ['i', 'n', 'f'] ∨ body = ['n', 'a', 'n']) ∧
      ((text x).toList = body ∨ (text x).toList = '-' :: body) := by
  rw [text, render]
  cases parts? x with
  | none =>
    dsimp only
    split
    · exact ⟨_, .inr (.inr rfl), .inl rfl⟩
    · split
      · exact ⟨_, .inr (.inl rfl), .inr rfl⟩
      · exact ⟨_, .inr (.inl rfl), .inl rfl⟩
  | some p =>
    dsimp only
    have digits : ∀ c ∈ Nat.toDigits 10 (shortest p).1, isDigit c :=
      fun c => isDigit_of_mem_toDigits
    have some : Nat.toDigits 10 (shortest p).1 ≠ [] := Nat.toDigits_ne_nil
    -- The layouts know nothing of the sign, which is written in front of what they give.
    have signed (body : List Char) : (if p.negative then "-" else "").toList ++ body = body ∨
        (if p.negative then "-" else "").toList ++ body = '-' :: body := by
      split
      · exact .inr rfl
      · exact .inl rfl
    rw [String.toList_append]
    refine ⟨_, .inl ?_, signed _⟩
    split
    · exact numeral_positional (List.forall_mem_singleton.mpr (by decide)) (by simp) 0
    · split
      · exact numeral_positional digits some _
      · exact numeral_scientific digits some _

theorem Numeral.isDigit_of_head (numeral : Numeral cs) : ∀ c ∈ cs.head?, isDigit c := by
  have front {digits rest : List Char} (all : ∀ c ∈ digits, isDigit c) (some : digits ≠ []) :
      ∀ c ∈ (digits ++ rest).head?, isDigit c := by
    intro c first
    rw [List.head?_append, List.head?_eq_some_head some, Option.some_or] at first
    exact all c (Option.some.inj first ▸ List.head_mem some)
  cases numeral with
  | whole digits exponent all some => exact front all some
  | fraction digits places exponent all some => exact front all some

theorem Numeral.unspaced (numeral : Numeral cs) : Unspaced cs := by
  have front {digits : List Char} (all : ∀ c ∈ digits, isDigit c) : Unspaced digits :=
    fun c member => isBlank_of_isDigit (all c member)
  cases numeral with
  | whole digits exponent all some scaled => exact (front all).append scaled.unspaced
  | fraction digits places exponent all some after scaled =>
    exact (front all).append (.cons (by decide) ((front after).append scaled.unspaced))

/-- The text of a float has no blanks. -/
theorem unspaced_text (x : Float) : Unspaced (text x).toList := by
  obtain ⟨body, spelled, written⟩ := exists_body_text x
  have unspaced : Unspaced body := by
    rcases spelled with numeral | rfl | rfl
    · exact numeral.unspaced
    · exact .cons (by decide) (.cons (by decide) (.cons (by decide) .nil))
    · exact .cons (by decide) (.cons (by decide) (.cons (by decide) .nil))
  rcases written with plain | negative
  · rwa [plain]
  · rw [negative]
    exact .cons (by decide) unspaced

theorem takeSign_body {body : List Char}
    (spelled : Numeral body ∨ body = ['i', 'n', 'f'] ∨ body = ['n', 'a', 'n'])
    (written : cs = body ∨ cs = '-' :: body) : (takeSign cs).2 = body := by
  rcases written with rfl | rfl
  · rcases spelled with numeral | rfl | rfl
    · rw [takeSign_of_isDigit numeral.isDigit_of_head]
    · rfl
    · rfl
  · rfl

/-- The text of a float is read as a float. -/
theorem isSome_readFloat?_text (x : Float) : (readFloat? (text x)).isSome := by
  obtain ⟨body, spelled, written⟩ := exists_body_text x
  rw [readFloat?]
  dsimp only
  rw [takeSign_body spelled written, Option.isSome_map]
  rcases spelled with numeral | rfl | rfl
  · obtain ⟨y, read⟩ := Option.isSome_iff_exists.mp numeral.isSome_readUnsigned?
    rw [read]
    rfl
  · rfl
  · rfl

theorem Numeral.exists_mark (numeral : Numeral cs) : ∃ c ∈ cs, isDigit c = false := by
  cases numeral with
  | whole digits exponent all some scaled marked =>
    cases scaled with
    | absent => exact absurd rfl marked
    | marked => exact ⟨'e', by simp, by decide⟩
  | fraction => exact ⟨'.', by simp, by decide⟩

/-- The text of a float is not read as an integer. -/
theorem readInteger?_text (x : Float) : readInteger? (text x) = none := by
  obtain ⟨body, spelled, written⟩ := exists_body_text x
  have mark : ∃ c ∈ body, isDigit c = false := by
    rcases spelled with numeral | rfl | rfl
    · exact numeral.exists_mark
    · exact ⟨'n', by simp, by decide⟩
    · exact ⟨'n', by simp, by decide⟩
  rw [readInteger?]
  dsimp only
  rw [takeSign_body spelled written, if_pos]
  simpa using Or.inr mark

end ApiContract.Decimal
