import ApiContract.Proofs.Decimal.Digits
import Mathlib.Tactic.ByContra

/-!
# Reading back written timestamps

A timestamp is written with six digits of the second, so what is read back is the point in
time without what is finer. Years of four digits are read as a timestamp with an offset;
others have a sign and are read without one, after the final letter is dropped.

## Main definitions

* `Instant.truncated` — a point in time without what is finer than a microsecond
* `Date.InRange` — a date of a year that input may name

## Main results

* `Instant.read?_format` — what is written is read back without what is finer
* `Instant.inRange_of_read?` — what is read may be written
* `Instant.format_truncated` — what is finer is not written
-/

namespace ApiContract

open TimePattern (zeroPadded writeYear writeItem pad)
open Decimal (NoDigit isDigit ofDigits)

/-- A date of a year that input may name. -/
def Date.InRange (d : Date) : Prop := Date.firstYear ≤ d.year ∧ d.year ≤ Date.lastYear

/-- A point in time without what is finer than a microsecond. -/
def Instant.truncated (t : Instant) : Instant where
  date := t.date
  time := { t.time with
    nanosecond := t.time.nanosecond / 1000 * 1000
    nanosecond_lt := by
      have bound := t.time.nanosecond_lt
      omega }

/-! ### Dates and times of day -/

namespace Date

theorem daysInMonth_le (year : Int) (month : Nat) : daysInMonth year month ≤ 31 := by
  unfold daysInMonth
  split <;> first | omega | (split <;> omega)

theorem daysInMonth_eq_zero {year : Int} {month : Nat} (beyond : 12 < month) :
    daysInMonth year month = 0 := by
  unfold daysInMonth
  split <;> omega

theorem month_le (d : Date) : d.month ≤ 12 := by
  by_contra beyond
  have none : daysInMonth d.year d.month = 0 := daysInMonth_eq_zero (Nat.lt_of_not_le beyond)
  have first := d.day_pos
  have last := d.day_le
  omega

theorem day_le_31 (d : Date) : d.day ≤ 31 :=
  Nat.le_trans d.day_le (daysInMonth_le _ _)

theorem of?_self {d : Date} (inRange : d.InRange) : of? d.year d.month d.day = some d := by
  have within : firstYear ≤ d.year ∧ d.year ≤ lastYear := inRange
  rw [of?, dif_pos ⟨d.day_pos, d.day_le⟩, if_pos within]

theorem inRange_of_of? {year : Int} {month day : Nat} {d : Date}
    (found : of? year month day = some d) : d.InRange ∧ d.year = year := by
  rw [of?] at found
  split at found
  · split at found
    · rename_i inRange
      obtain rfl := Option.some.inj found
      exact ⟨inRange, rfl⟩
    · cases found
  · cases found

end Date

theorem TimeOfDay.of?_self (t : TimeOfDay) :
    of? t.hour t.minute t.second t.nanosecond = some t := by
  rw [of?, dif_pos ⟨t.hour_lt, t.minute_lt, t.second_le, t.nanosecond_lt⟩]

namespace Instant

variable {rest : List Char}

/-- At the offset of UTC, a local date and time are those of UTC. -/
theorem ofLocal_zero (date : Date) (time : TimeOfDay) : ofLocal date time 0 = ⟨date, time⟩ := by
  have hour := time.hour_lt
  have minute := time.minute_lt
  have clock : withClock time (time.hour * 60 + time.minute) = time := by
    cases time
    simp only [withClock, TimeOfDay.mk.injEq, and_true]
    dsimp only at hour minute
    omega
  rw [ofLocal]
  rw [if_neg (by omega), if_pos (by omega)]
  have minutes : ((time.hour : Int) * 60 + time.minute - 0).toNat =
      time.hour * 60 + time.minute := by omega
  rw [minutes, clock]

/-! ### Parts -/

theorem readExactly_zeroPadded {width n : Nat} (positive : 0 < width)
    (small : n < Nat.pow 10 width) (stop : NoDigit rest) :
    readExactly width (zeroPadded width n ++ rest) = some (n, rest) := by
  have all : ∀ c ∈ zeroPadded width n, isDigit c := fun _ => Decimal.isDigit_of_mem_zeroPadded
  have size := Decimal.length_zeroPadded positive small
  have taken : (zeroPadded width n).take width = zeroPadded width n := by
    rw [List.take_of_length_le (Nat.le_of_eq size)]
  rw [readExactly, Decimal.takeWhile_digits all stop, taken, if_pos size,
    Decimal.ofDigits_zeroPadded, List.drop_left' size]

theorem readUpTo_zeroPadded {limit width n : Nat} (fits : (zeroPadded width n).length ≤ limit)
    (stop : NoDigit rest) : readUpTo limit (zeroPadded width n ++ rest) = some (n, rest) := by
  have all : ∀ c ∈ zeroPadded width n, isDigit c := fun _ => Decimal.isDigit_of_mem_zeroPadded
  rw [readUpTo, Decimal.takeWhile_digits all stop, List.take_of_length_le fits,
    if_neg (by simp [Decimal.zeroPadded_ne_nil]), Decimal.ofDigits_zeroPadded, List.drop_left]

/-- No blank comes first. -/
def NoBlank (cs : List Char) : Prop := ∀ c ∈ cs.head?, Text.isBlank c = false

theorem dropWhile_blank {cs : List Char} (first : NoBlank cs) :
    cs.dropWhile Text.isBlank = cs := by
  cases cs with
  | nil => rfl
  | cons c rest => rw [List.dropWhile_cons, if_neg (by simp [first c rfl])]

theorem isBlank_of_isDigit {c : Char} (digit : isDigit c) : Text.isBlank c = false := by
  rw [Decimal.isDigit_eq] at digit
  obtain ⟨least, most⟩ := Char.isDigit_iff_toNat.mp digit
  have least : 48 ≤ c.toNat := least
  have most : c.toNat ≤ 57 := most
  simp only [Text.isBlank, Bool.or_eq_false_iff, Bool.and_eq_false_iff, decide_eq_false_iff_not,
    beq_eq_false_iff_ne]
  omega

theorem noBlank_zeroPadded (width n : Nat) (rest : List Char) :
    NoBlank (zeroPadded width n ++ rest) := by
  intro c first
  have digit : c ∈ zeroPadded width n := by
    cases digits : zeroPadded width n with
    | nil => exact absurd digits (Decimal.zeroPadded_ne_nil width n)
    | cons d more =>
      rw [digits] at first
      rw [← Option.some.inj first]
      exact List.mem_cons_self
  exact isBlank_of_isDigit (Decimal.isDigit_of_mem_zeroPadded digit)

theorem readPart_zeroPadded {n : Nat} (small : n < 100) (stop : NoDigit rest) :
    readPart (zeroPadded 2 n ++ rest) = some (n, rest) := by
  rw [readPart, dropWhile_blank (noBlank_zeroPadded 2 n rest)]
  exact readUpTo_zeroPadded (Nat.le_of_eq (Decimal.length_zeroPadded (by decide) small)) stop

/-- Up to nine digits after the point are a part of a second, counted in nanoseconds. -/
theorem readFraction_zeroPadded {width n : Nat} (positive : 0 < width) (most : width ≤ 9)
    (small : n < Nat.pow 10 width) (stop : NoDigit rest) :
    readFraction ('.' :: (zeroPadded width n ++ rest)) =
      some (n * Nat.pow 10 (9 - width), rest) := by
  have all : ∀ c ∈ zeroPadded width n, isDigit c := fun _ => Decimal.isDigit_of_mem_zeroPadded
  have size : (zeroPadded width n).length = width := Decimal.length_zeroPadded positive small
  rw [readFraction, Decimal.takeWhile_digits all stop, List.take_of_length_le (by omega),
    if_neg (by simp [Decimal.zeroPadded_ne_nil]), size, Decimal.ofDigits_zeroPadded,
    List.drop_left' size]

/-! ### The written form -/

/-- What is written after the year. -/
def writtenRest (t : Instant) (tail : List Char) : List Char :=
  '-' :: (zeroPadded 2 t.date.month ++ '-' :: (zeroPadded 2 t.date.day ++
    'T' :: (zeroPadded 2 t.time.hour ++ ':' :: (zeroPadded 2 t.time.minute ++
      ':' :: (zeroPadded 2 t.time.second ++
        '.' :: (zeroPadded 6 (t.time.nanosecond / 1000) ++ tail))))))

theorem writtenRest_append (t : Instant) (tail more : List Char) :
    writtenRest t tail ++ more = writtenRest t (tail ++ more) := by
  simp [writtenRest]

private theorem pad_two (n : Nat) : pad .zero 2 false n = zeroPadded 2 n := by
  have notNegative : ¬ (n : Int) < 0 := by omega
  simp [pad, notNegative]

private theorem writeItem_microseconds (t : Instant) :
    writeItem t (.phrase (.fractionDigits 6 true)) =
      '.' :: zeroPadded 6 (t.time.nanosecond / 1000) := by
  have thousand : Nat.pow 10 (9 - 6) = 1000 := rfl
  show (if true = true then ['.'] else []) ++
    zeroPadded 6 (t.time.nanosecond / Nat.pow 10 (9 - 6)) = _
  rw [thousand, if_pos rfl]
  rfl

theorem toList_format (t : Instant) : (TimePattern.format TimePattern.default t).toList =
    writeYear .zero t.date.year ++ writtenRest t ['Z'] := by
  rw [TimePattern.format, String.toList_ofList]
  simp only [TimePattern.default, List.flatMap_cons, List.flatMap_nil, writeItem_microseconds]
  simp only [writeItem, TimePattern.writeQuantity, pad_two, writtenRest, List.cons_append,
    List.nil_append, List.append_nil]

/-! ### Reading with an offset -/

theorem noDigit_cons {c : Char} (other : isDigit c = false) : NoDigit (c :: rest) := by
  intro d first
  rw [← Option.some.inj first]
  exact other

private theorem readExactly_two {n : Nat} {c : Char} (small : n < 100) (other : isDigit c = false) :
    readExactly 2 (zeroPadded 2 n ++ c :: rest) = some (n, c :: rest) :=
  readExactly_zeroPadded (by decide) small (noDigit_cons other)

private theorem readMicroseconds {n : Nat} (small : n < 1000000) (stop : NoDigit rest) :
    readFraction ('.' :: (zeroPadded 6 n ++ rest)) = some (n * 1000, rest) :=
  readFraction_zeroPadded (by decide) (by decide) small stop

theorem truncated_time (t : Instant) : TimeOfDay.of? t.time.hour t.time.minute t.time.second
    (t.time.nanosecond / 1000 * 1000) = some t.truncated.time :=
  TimeOfDay.of?_self t.truncated.time

/-- The bounds that the digits of the parts rely on. -/
theorem parts_lt (t : Instant) : t.date.month < 100 ∧ t.date.day < 100 ∧
    t.time.hour < 100 ∧ t.time.minute < 100 ∧ t.time.second < 100 ∧
    t.time.nanosecond / 1000 < 1000000 := by
  have month := t.date.month_le
  have day := t.date.day_le_31
  have hour := t.time.hour_lt
  have minute := t.time.minute_lt
  have second := t.time.second_le
  have nanosecond := t.time.nanosecond_lt
  omega

/-- A year of four digits is read with the offset of UTC. -/
theorem readWithOffset_written (t : Instant) (inRange : t.date.InRange) {year : Nat}
    (four : year < 10000) (same : t.date.year = year) :
    readWithOffset (zeroPadded 4 year ++ writtenRest t ['Z']) = some t.truncated := by
  obtain ⟨month, day, hour, minute, second, fraction⟩ := parts_lt t
  have first : readExactly 4 (zeroPadded 4 year ++ writtenRest t ['Z']) =
      some (year, writtenRest t ['Z']) :=
    readExactly_zeroPadded (by decide) four (noDigit_cons rfl)
  have date : Date.of? year t.date.month t.date.day = some t.date := by
    rw [← same]
    exact Date.of?_self inRange
  have dash : isDigit '-' = false := rfl
  have letter : isDigit 'T' = false := rfl
  have colon : isDigit ':' = false := rfl
  have point : isDigit '.' = false := rfl
  have zulu : NoDigit ['Z'] := noDigit_cons rfl
  have dashed (cs : List Char) : readChar '-' ('-' :: cs) = some cs := rfl
  have parted (cs : List Char) : readChar ':' (':' :: cs) = some cs := rfl
  -- One step for each part, in the order in which the parts are written.
  refine Option.bind_eq_some_iff.mpr ⟨_, first, ?_⟩
  refine Option.bind_eq_some_iff.mpr ⟨_, dashed _, ?_⟩
  refine Option.bind_eq_some_iff.mpr ⟨_, readExactly_two month dash, ?_⟩
  refine Option.bind_eq_some_iff.mpr ⟨_, dashed _, ?_⟩
  refine Option.bind_eq_some_iff.mpr ⟨_, readExactly_two day letter, ?_⟩
  refine Option.bind_eq_some_iff.mpr ⟨_, rfl, ?_⟩
  refine Option.bind_eq_some_iff.mpr ⟨_, readExactly_two hour colon, ?_⟩
  refine Option.bind_eq_some_iff.mpr ⟨_, parted _, ?_⟩
  refine Option.bind_eq_some_iff.mpr ⟨_, readExactly_two minute colon, ?_⟩
  refine Option.bind_eq_some_iff.mpr ⟨_, parted _, ?_⟩
  refine Option.bind_eq_some_iff.mpr ⟨_, readExactly_two second point, ?_⟩
  refine Option.bind_eq_some_iff.mpr ⟨_, readMicroseconds fraction zulu, ?_⟩
  refine Option.bind_eq_some_iff.mpr ⟨_, rfl, ?_⟩
  refine Option.bind_eq_some_iff.mpr ⟨_, date, ?_⟩
  refine Option.bind_eq_some_iff.mpr ⟨_, truncated_time t, ?_⟩
  exact congrArg some (ofLocal_zero t.date t.truncated.time)

/-- Where a digit is expected and none is, nothing is read with an offset. -/
theorem readWithOffset_eq_none {c : Char} (other : isDigit c = false) :
    readWithOffset (c :: rest) = none := by
  have none : readExactly 4 (c :: rest) = none := by
    rw [readExactly, List.takeWhile_cons, if_neg (by simp [other])]
  rw [readWithOffset, none]
  rfl

/-! ### Reading without an offset -/

theorem writeYear_four {year : Nat} (four : year < 10000) :
    writeYear .zero year = zeroPadded 4 year := by
  have notNegative : ¬ (year : Int) < 0 := by omega
  have small : ¬ 9999 < (year : Int) := by omega
  simp [writeYear, pad, notNegative, small]

theorem writeYear_negative {year : Int} (negative : year < 0) :
    writeYear .zero year = '-' :: zeroPadded 4 year.natAbs := by
  simp [writeYear, pad, negative]

theorem writeYear_large {year : Int} (large : 9999 < year) :
    writeYear .zero year = '+' :: zeroPadded 4 year.natAbs := by
  have notNegative : ¬ year < 0 := by omega
  simp [writeYear, pad, notNegative, large]

private theorem readYear_minus (cs : List Char) :
    readYear ('-' :: cs) = (readUpTo cs.length cs).map fun p => (-(p.1 : Int), p.2) := rfl

private theorem readYear_plus (cs : List Char) :
    readYear ('+' :: cs) = (readUpTo cs.length cs).map fun p => ((p.1 : Int), p.2) := rfl

/-- A year with a sign is read back with however many digits it has. -/
theorem readYear_written {year : Int} (signed : year < 0 ∨ 9999 < year) (stop : NoDigit rest) :
    readYear (writeYear .zero year ++ rest) = some (year, rest) := by
  have digits : readUpTo (zeroPadded 4 year.natAbs ++ rest).length
      (zeroPadded 4 year.natAbs ++ rest) = some (year.natAbs, rest) :=
    readUpTo_zeroPadded (by rw [List.length_append]; omega) stop
  rcases signed with negative | large
  · have magnitude : -(year.natAbs : Int) = year := by omega
    rw [writeYear_negative negative, List.cons_append, readYear_minus, digits, Option.map_some,
      magnitude]
  · have magnitude : (year.natAbs : Int) = year := by omega
    rw [writeYear_large large, List.cons_append, readYear_plus, digits, Option.map_some,
      magnitude]

/-- A year with a sign is read without an offset. -/
theorem readWithoutOffset_written (t : Instant) (inRange : t.date.InRange)
    (signed : t.date.year < 0 ∨ 9999 < t.date.year) :
    readWithoutOffset (writeYear .zero t.date.year ++ writtenRest t []) = some t.truncated := by
  obtain ⟨month, day, hour, minute, second, fraction⟩ := parts_lt t
  have first : readYear (writeYear .zero t.date.year ++ writtenRest t []) =
      some (t.date.year, writtenRest t []) := readYear_written signed (noDigit_cons rfl)
  have dash (cs : List Char) : NoDigit ('-' :: cs) := noDigit_cons rfl
  have letter (cs : List Char) : NoDigit ('T' :: cs) := noDigit_cons rfl
  have colon (cs : List Char) : NoDigit (':' :: cs) := noDigit_cons rfl
  have point (cs : List Char) : NoDigit ('.' :: cs) := noDigit_cons rfl
  have ended : NoDigit [] := fun c first => nomatch first
  rw [readWithoutOffset, readDate, first]
  simp only [bind, Option.bind_some, writtenRest, readChar, if_true, pure,
    readPart_zeroPadded month (dash _), readPart_zeroPadded day (letter _),
    readPart_zeroPadded hour (colon _), readPart_zeroPadded minute (colon _),
    readPart_zeroPadded second (point _), readMicroseconds fraction ended,
    Date.of?_self inRange, truncated_time, List.isEmpty_nil]
  rfl

/-! ### Reading in any shape -/

theorem trimChars_eq {cs : List Char} (first : NoBlank cs) (last : NoBlank cs.reverse) :
    Text.trimChars cs = cs := by
  rw [Text.trimChars, dropWhile_blank first, dropWhile_blank last, List.reverse_reverse]

theorem dropZulu_append (cs : List Char) : dropZulu (cs ++ ['Z']) = cs := by
  simp [dropZulu]

private theorem noBlank_writeYear (year : Int) (rest : List Char) :
    NoBlank (writeYear .zero year ++ rest) := by
  by_cases negative : year < 0
  · rw [writeYear_negative negative]
    intro c first
    rw [← Option.some.inj first]
    rfl
  · by_cases large : 9999 < year
    · rw [writeYear_large large]
      intro c first
      rw [← Option.some.inj first]
      rfl
    · obtain ⟨n, rfl⟩ := Int.eq_ofNat_of_zero_le (Int.not_lt.mp negative)
      rw [writeYear_four (by omega)]
      exact noBlank_zeroPadded 4 n rest

/-- What is written is read back without what is finer than a microsecond. -/
theorem read?_format {t : Instant} (inRange : t.date.InRange) :
    read? (TimePattern.format TimePattern.default t) = some t.truncated := by
  have ending : writeYear .zero t.date.year ++ writtenRest t ['Z'] =
      (writeYear .zero t.date.year ++ writtenRest t []) ++ ['Z'] := by
    rw [List.append_assoc, writtenRest_append, List.nil_append]
  have trimmed : Text.trimChars (TimePattern.format TimePattern.default t).toList =
      writeYear .zero t.date.year ++ writtenRest t ['Z'] := by
    rw [toList_format]
    refine trimChars_eq (noBlank_writeYear _ _) ?_
    rw [ending, List.reverse_append]
    intro c last
    rw [← Option.some.inj last]
    rfl
  rw [read?, trimmed]
  -- The two ways of writing a year lead to the two ways of reading.
  by_cases four : 0 ≤ t.date.year ∧ t.date.year ≤ 9999
  · obtain ⟨year, same⟩ := Int.eq_ofNat_of_zero_le four.1
    have small : year < 10000 := by omega
    rw [same, writeYear_four small, readWithOffset_written t inRange small same]
    rfl
  · have signed : t.date.year < 0 ∨ 9999 < t.date.year := by omega
    have none : readWithOffset (writeYear .zero t.date.year ++ writtenRest t ['Z']) = none := by
      rcases signed with negative | large
      · rw [writeYear_negative negative]
        exact readWithOffset_eq_none rfl
      · rw [writeYear_large large]
        exact readWithOffset_eq_none rfl
    rw [none, ending, dropZulu_append, readWithoutOffset_written t inRange signed]
    rfl

/-- What is finer than a microsecond is not written. -/
theorem format_truncated (t : Instant) :
    TimePattern.format TimePattern.default t.truncated =
      TimePattern.format TimePattern.default t := by
  have micros : t.time.nanosecond / 1000 * 1000 / 1000 = t.time.nanosecond / 1000 := by omega
  rw [← String.toList_inj, toList_format, toList_format]
  simp only [writtenRest, truncated, micros]

/-! ### What is read may be written -/

theorem readExactly_lt {count n : Nat} {cs : List Char}
    (read : readExactly count cs = some (n, rest)) : n < Nat.pow 10 count := by
  rw [readExactly] at read
  split at read
  · rename_i size
    obtain ⟨rfl, -⟩ := Prod.mk.inj (Option.some.inj read)
    have all : ∀ c ∈ (cs.takeWhile isDigit).take count, isDigit c := fun c member =>
      (List.all_eq_true.mp List.all_takeWhile) c (List.mem_of_mem_take member)
    have bound := Decimal.ofDigits_lt all
    rwa [size] at bound
  · cases read

theorem inRange_ofLocal {date : Date} {time : TimeOfDay} {ahead : Int} (least : 0 ≤ date.year)
    (most : date.year < 10000) : (ofLocal date time ahead).date.InRange := by
  have first : Date.firstYear = -262143 := rfl
  have last : Date.lastYear = 262142 := rfl
  -- An offset moves the date by a day at most, and so the year by one.
  have before : date.year - 1 ≤ date.previous.year ∧ date.previous.year ≤ date.year := by
    rw [Date.previous]
    split
    · dsimp only
      omega
    · split
      · dsimp only
        omega
      · simp only [Date.newYearsEve]
        omega
  have after : date.year ≤ date.next.year ∧ date.next.year ≤ date.year + 1 := by
    rw [Date.next]
    split
    · dsimp only
      omega
    · split
      · dsimp only
        omega
      · simp only [Date.newYear]
        omega
  rw [Date.InRange, first, last, ofLocal]
  split
  · dsimp only
    omega
  · split
    · dsimp only
      omega
    · dsimp only
      omega

theorem inRange_of_readWithOffset {cs : List Char} {t : Instant}
    (read : readWithOffset cs = some t) : t.date.InRange := by
  obtain ⟨⟨year, _⟩, four, read⟩ := Option.bind_eq_some_iff.mp read
  obtain ⟨_, _, read⟩ := Option.bind_eq_some_iff.mp read
  obtain ⟨⟨month, _⟩, _, read⟩ := Option.bind_eq_some_iff.mp read
  obtain ⟨_, _, read⟩ := Option.bind_eq_some_iff.mp read
  obtain ⟨⟨day, _⟩, _, read⟩ := Option.bind_eq_some_iff.mp read
  obtain ⟨_, _, read⟩ := Option.bind_eq_some_iff.mp read
  obtain ⟨⟨hour, _⟩, _, read⟩ := Option.bind_eq_some_iff.mp read
  obtain ⟨_, _, read⟩ := Option.bind_eq_some_iff.mp read
  obtain ⟨⟨minute, _⟩, _, read⟩ := Option.bind_eq_some_iff.mp read
  obtain ⟨_, _, read⟩ := Option.bind_eq_some_iff.mp read
  obtain ⟨⟨second, _⟩, _, read⟩ := Option.bind_eq_some_iff.mp read
  obtain ⟨⟨nanosecond, _⟩, _, read⟩ := Option.bind_eq_some_iff.mp read
  obtain ⟨⟨ahead, _⟩, _, read⟩ := Option.bind_eq_some_iff.mp read
  obtain ⟨date, found, read⟩ := Option.bind_eq_some_iff.mp read
  obtain ⟨time, _, done⟩ := Option.bind_eq_some_iff.mp read
  have bound : year < 10000 := readExactly_lt four
  have same := (Date.inRange_of_of? found).2
  split at done
  · obtain rfl := Option.some.inj done
    exact inRange_ofLocal (by omega) (by omega)
  · cases done

theorem inRange_of_readDate {cs : List Char} {d : Date} (read : readDate cs = some (d, rest)) :
    d.InRange := by
  simp only [readDate, bind, Option.bind_eq_some_iff] at read
  obtain ⟨⟨year, _⟩, _, _, _, ⟨month, _⟩, _, _, _, ⟨day, _⟩, _, date, found, done⟩ := read
  obtain ⟨rfl, -⟩ := Prod.mk.inj (Option.some.inj done)
  exact (Date.inRange_of_of? found).1

theorem inRange_of_readWithoutOffset {cs : List Char} {t : Instant}
    (read : readWithoutOffset cs = some t) : t.date.InRange := by
  simp only [readWithoutOffset, bind, Option.bind_eq_some_iff] at read
  obtain ⟨⟨date, _⟩, found, _, _, ⟨hour, _⟩, _, _, _, ⟨minute, _⟩, _, _, _, ⟨second, _⟩, _,
    ⟨nanosecond, _⟩, _, time, _, done⟩ := read
  split at done
  · obtain rfl := Option.some.inj done
    exact inRange_of_readDate found
  · cases done

theorem inRange_of_readPlainDate {cs : List Char} {t : Instant}
    (read : readPlainDate cs = some t) : t.date.InRange := by
  simp only [readPlainDate, bind, Option.bind_eq_some_iff] at read
  obtain ⟨⟨date, _⟩, found, done⟩ := read
  split at done
  · obtain rfl := Option.some.inj done
    exact inRange_of_readDate found
  · cases done

/-- What is read in any shape is of a year that may be written. -/
theorem inRange_of_read? {s : String} {t : Instant} (read : read? s = some t) :
    t.date.InRange := by
  rw [read?, Option.orElse_eq_or, Option.or_eq_some_iff, Option.orElse_eq_or,
    Option.or_eq_some_iff] at read
  rcases read with offset | ⟨_, plain | ⟨_, date⟩⟩
  · exact inRange_of_readWithOffset offset
  · exact inRange_of_readWithoutOffset plain
  · exact inRange_of_readPlainDate date

end Instant

end ApiContract
