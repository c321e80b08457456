import ApiContract.Proofs.Time.Timestamp

/-!
# Reading back stored times

A time is stored with as many digits of the second as it needs, so that nothing of it is lost.
All of its parts have their full width, though stored times may be read with less.

## Main results

* `Instant.readStored?_formatExact` — what is stored is read back
* `Instant.inRange_ofUnix` — points in time that are counted from 1970 may be stored
-/

namespace ApiContract

open TimePattern (zeroPadded writeYear writeFraction formatExact)
open Decimal (NoDigit isDigit)

/-- The date of a day that is counted from 1970 is one that input may name. -/
theorem Date.inRange_ofDayNumber (n : Int) : (ofDayNumber n).InRange := by
  have falls : ∀ year month day, ((of? year month day).getD (newYear 1970)).InRange := by
    intro year month day
    cases found : of? year month day with
    | none => exact ⟨by decide, by decide⟩
    | some d => exact (inRange_of_of? found).1
  exact falls _ _ _

namespace Instant

variable {rest : List Char}

/-- A point in time that is counted in seconds from 1970 is of a year that may be written. -/
theorem inRange_ofUnix (seconds : Int) : (ofUnix seconds).date.InRange :=
  Date.inRange_ofDayNumber _

/-- A year is read back with however many digits it has. -/
theorem readYear_writeYear (year : Int) (stop : NoDigit rest) :
    readYear (writeYear .zero year ++ rest) = some (year, rest) := by
  by_cases signed : year < 0 ∨ 9999 < year
  · exact readYear_written signed stop
  · obtain ⟨n, rfl⟩ := Int.eq_ofNat_of_zero_le (a := year) (by omega)
    have small : n < 10000 := by omega
    have size : (zeroPadded 4 n).length = 4 := Decimal.length_zeroPadded (by decide) small
    have read := readUpTo_zeroPadded (Nat.le_of_eq size) stop
    -- The first digit is no sign.
    have unsigned : ∀ c tail, isDigit c = false → zeroPadded 4 n ++ rest ≠ c :: tail := by
      intro c tail other same
      cases digits : zeroPadded 4 n with
      | nil => exact Decimal.zeroPadded_ne_nil 4 n digits
      | cons d more =>
        have digit : isDigit d :=
          Decimal.isDigit_of_mem_zeroPadded (digits ▸ List.mem_cons_self)
        rw [digits, List.cons_append] at same
        rw [(List.cons.inj same).1, other] at digit
        cases digit
    rw [writeYear_four small, readYear, dropWhile_blank (noBlank_zeroPadded 4 n rest)]
    split
    · rename_i tail same
      exact absurd same (unsigned '-' tail rfl)
    · rename_i tail same
      exact absurd same (unsigned '+' tail rfl)
    · rw [read]
      rfl

theorem noDigit_writeFraction (nanosecond : Nat) (more : List Char) :
    NoDigit (writeFraction nanosecond ++ 'Z' :: more) := by
  have point (cs : List Char) : NoDigit ('.' :: cs) := noDigit_cons rfl
  rw [writeFraction]
  split
  · exact noDigit_cons rfl
  · split
    · exact point _
    · split <;> exact point _

/-- The digits of the second that are written are read back, before a letter. -/
theorem readFraction_writeFraction {nanosecond : Nat} (small : nanosecond < 1000000000)
    (more : List Char) :
    readFraction (writeFraction nanosecond ++ 'Z' :: more) = some (nanosecond, 'Z' :: more) := by
  have stop : NoDigit ('Z' :: more) := noDigit_cons rfl
  have digits : ∀ width n, 0 < width → width ≤ 9 → n < Nat.pow 10 width →
      n * Nat.pow 10 (9 - width) = nanosecond →
      readFraction ('.' :: zeroPadded width n ++ 'Z' :: more) =
        some (nanosecond, 'Z' :: more) := by
    rintro width n positive most fits rfl
    exact readFraction_zeroPadded positive most fits stop
  have milli : Nat.pow 10 3 = 1000 := rfl
  have micro : Nat.pow 10 6 = 1000000 := rfl
  have nano : Nat.pow 10 9 = 1000000000 := rfl
  rw [writeFraction]
  split
  · rename_i none
    rw [none]
    rfl
  · split
    · have back : nanosecond / 1000000 * 1000000 = nanosecond := by omega
      exact digits 3 _ (by decide) (by decide) (by omega) back
    · split
      · have back : nanosecond / 1000 * 1000 = nanosecond := by omega
        exact digits 6 _ (by decide) (by decide) (by omega) back
      · exact digits 9 _ (by decide) (by decide) (by omega) (Nat.mul_one nanosecond)

/-- What is stored is read back. -/
theorem readStored?_formatExact {t : Instant} (inRange : t.date.InRange) :
    readStored? (formatExact t) = some t := by
  obtain ⟨month, day, hour, minute, second, -⟩ := parts_lt t
  have dash (cs : List Char) : NoDigit ('-' :: cs) := noDigit_cons rfl
  have letter (cs : List Char) : NoDigit ('T' :: cs) := noDigit_cons rfl
  have colon (cs : List Char) : NoDigit (':' :: cs) := noDigit_cons rfl
  have last := noDigit_writeFraction t.time.nanosecond []
  have written : (formatExact t).toList = writeYear .zero t.date.year ++
      '-' :: (zeroPadded 2 t.date.month ++ '-' :: (zeroPadded 2 t.date.day ++
      'T' :: (zeroPadded 2 t.time.hour ++ ':' :: (zeroPadded 2 t.time.minute ++
      ':' :: (zeroPadded 2 t.time.second ++ (writeFraction t.time.nanosecond ++ ['Z'])))))) := by
    simp [formatExact, TimePattern.writeFull]
  have dashed (cs : List Char) : readChar '-' (('-' :: cs).dropWhile Text.isBlank) = some cs := rfl
  have parted (cs : List Char) : readChar ':' ((':' :: cs).dropWhile Text.isBlank) = some cs := rfl
  have zulu : readStoredOffset ['Z'] = some (0, []) := rfl
  -- One step for each part, in the order in which the parts are written.
  rw [readStored?, written]
  refine Option.bind_eq_some_iff.mpr ⟨_, readYear_writeYear _ (dash _), ?_⟩
  refine Option.bind_eq_some_iff.mpr ⟨_, dashed _, ?_⟩
  refine Option.bind_eq_some_iff.mpr ⟨_, readPart_zeroPadded month (dash _), ?_⟩
  refine Option.bind_eq_some_iff.mpr ⟨_, dashed _, ?_⟩
  refine Option.bind_eq_some_iff.mpr ⟨_, readPart_zeroPadded day (letter _), ?_⟩
  refine Option.bind_eq_some_iff.mpr ⟨_, rfl, ?_⟩
  refine Option.bind_eq_some_iff.mpr ⟨_, readPart_zeroPadded hour (colon _), ?_⟩
  refine Option.bind_eq_some_iff.mpr ⟨_, parted _, ?_⟩
  refine Option.bind_eq_some_iff.mpr ⟨_, readPart_zeroPadded minute (colon _), ?_⟩
  refine Option.bind_eq_some_iff.mpr ⟨_, parted _, ?_⟩
  refine Option.bind_eq_some_iff.mpr ⟨_, readPart_zeroPadded second last, ?_⟩
  refine Option.bind_eq_some_iff.mpr
    ⟨_, readFraction_writeFraction t.time.nanosecond_lt [], ?_⟩
  refine Option.bind_eq_some_iff.mpr ⟨_, zulu, ?_⟩
  refine Option.bind_eq_some_iff.mpr ⟨_, Date.of?_self inRange, ?_⟩
  refine Option.bind_eq_some_iff.mpr ⟨_, t.time.of?_self, ?_⟩
  exact congrArg some (ofLocal_zero t.date t.time)

end Instant

end ApiContract
