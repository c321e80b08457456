import ApiContract.Decimal.Read
import ApiContract.Text.Blank
import ApiContract.Time.Date

/-!
# Points in time

A point in time is a UTC date and a time of day with nanoseconds. The second `60` is kept
as it was given. Timestamps are read in three shapes: with an offset, as a date and a time
without one, and as a plain date.

## Main definitions

* `TimeOfDay`, `Instant` — a time of day, and a date with one
* `Instant.read?` — a timestamp in any of the accepted shapes
* `Instant.unixSeconds` — seconds since 1970-01-01
-/

namespace ApiContract

/-- A time of day. The second may be `60`. -/
structure TimeOfDay where
  hour : Nat
  minute : Nat
  second : Nat
  nanosecond : Nat
  hour_lt : hour < 24
  minute_lt : minute < 60
  second_le : second ≤ 60
  nanosecond_lt : nanosecond < 1000000000
  deriving DecidableEq, Repr

/-- A time of day with the given parts, if it exists. -/
def TimeOfDay.of? (hour minute second nanosecond : Nat) : Option TimeOfDay :=
  if h : hour < 24 ∧ minute < 60 ∧ second ≤ 60 ∧ nanosecond < 1000000000 then
    some ⟨hour, minute, second, nanosecond, h.1, h.2.1, h.2.2.1, h.2.2.2⟩
  else none

/-- The start of a day. -/
def TimeOfDay.midnight : TimeOfDay :=
  ⟨0, 0, 0, 0, by decide, by decide, by decide, by decide⟩

/-- A point in time: a UTC date and a time of day. -/
structure Instant where
  date : Date
  time : TimeOfDay
  deriving DecidableEq, Repr

namespace Instant

/-- The start of 1970. -/
def epoch : Instant := ⟨Date.newYear 1970, .midnight⟩

/-- Seconds since the start of 1970. The second `60` counts as the one before it. -/
def unixSeconds (t : Instant) : Int :=
  t.date.dayNumber * 86400 + t.time.hour * 3600 + t.time.minute * 60 + min t.time.second 59

/-- The point in time a number of seconds after the start of 1970. -/
def ofUnix (seconds : Int) : Instant :=
  let rest := (seconds % 86400).toNat
  ⟨Date.ofDayNumber (seconds / 86400),
    (TimeOfDay.of? (rest / 3600) (rest / 60 % 60) (rest % 60) 0).getD .midnight⟩

/-- The same time with another hour and minute. -/
def withClock (t : TimeOfDay) (minutes : Nat) : TimeOfDay :=
  { t with
    hour := minutes / 60 % 24
    minute := minutes % 60
    hour_lt := Nat.mod_lt _ (by decide)
    minute_lt := Nat.mod_lt _ (by decide) }

/-- The point in time that a local date and time denote, given how many minutes, less than
a day, the local clock is ahead of UTC. -/
def ofLocal (date : Date) (time : TimeOfDay) (ahead : Int) : Instant :=
  let minutes : Int := time.hour * 60 + time.minute - ahead
  if minutes < 0 then ⟨date.previous, withClock time (minutes + 1440).toNat⟩
  else if minutes < 1440 then ⟨date, withClock time minutes.toNat⟩
  else ⟨date.next, withClock time (minutes - 1440).toNat⟩

/-! ### Reading -/

/-- At least one and at most `limit` digits at the front of a text. -/
def readUpTo (limit : Nat) (cs : List Char) : Option (Nat × List Char) :=
  let digits := (cs.takeWhile Decimal.isDigit).take limit
  if digits.isEmpty then none else some (Decimal.ofDigits 0 digits, cs.drop digits.length)

/-- Exactly `count` digits at the front of a text. -/
def readExactly (count : Nat) (cs : List Char) : Option (Nat × List Char) :=
  let digits := (cs.takeWhile Decimal.isDigit).take count
  if digits.length = count then some (Decimal.ofDigits 0 digits, cs.drop count) else none

/-- A given character at the front of a text. -/
def readChar (c : Char) : List Char → Option (List Char)
  | d :: rest => if d = c then some rest else none
  | [] => none

/-- A point and digits as nanoseconds; digits after the ninth are ignored. -/
def readFraction : List Char → Option (Nat × List Char)
  | '.' :: rest =>
    let digits := rest.takeWhile Decimal.isDigit
    let kept := digits.take 9
    if digits.isEmpty then none
    else some (Decimal.ofDigits 0 kept * Nat.pow 10 (9 - kept.length), rest.drop digits.length)
  | cs => some (0, cs)

/-- A sign of an offset: plus, hyphen or the minus sign. -/
def readOffsetSign : List Char → Option (Bool × List Char)
  | '+' :: rest => some (false, rest)
  | '-' :: rest => some (true, rest)
  | '\u2212' :: rest => some (true, rest)
  | _ => none

/-- An offset from UTC in minutes: the letter `Z`, or a sign, hours and minutes. -/
def readOffset : List Char → Option (Int × List Char)
  | 'Z' :: rest => some (0, rest)
  | 'z' :: rest => some (0, rest)
  | cs => do
    let (negative, rest) ← readOffsetSign cs
    let (hours, rest) ← readExactly 2 rest
    let rest ← readChar ':' rest
    let (minutes, rest) ← readExactly 2 rest
    if hours < 24 ∧ minutes < 60 then
      let total : Int := hours * 60 + minutes
      return (if negative then -total else total, rest)
    else none

/-- The letter between date and time of a timestamp with an offset. -/
def readSeparator : List Char → Option (List Char)
  | 'T' :: rest => some rest
  | 't' :: rest => some rest
  | ' ' :: rest => some rest
  | _ => none

/-- A timestamp with an offset: every part has its full width. -/
def readWithOffset (cs : List Char) : Option Instant := do
  let (year, cs) ← readExactly 4 cs
  let cs ← readChar '-' cs
  let (month, cs) ← readExactly 2 cs
  let cs ← readChar '-' cs
  let (day, cs) ← readExactly 2 cs
  let cs ← readSeparator cs
  let (hour, cs) ← readExactly 2 cs
  let cs ← readChar ':' cs
  let (minute, cs) ← readExactly 2 cs
  let cs ← readChar ':' cs
  let (second, cs) ← readExactly 2 cs
  let (nanosecond, cs) ← readFraction cs
  let (ahead, cs) ← readOffset cs
  let date ← Date.of? year month day
  let time ← TimeOfDay.of? hour minute second nanosecond
  if cs.isEmpty then some (ofLocal date time ahead) else none

/-- A year: up to four digits, or a sign and any number of digits. Blanks before it are
skipped. -/
def readYear (cs : List Char) : Option (Int × List Char) :=
  match cs.dropWhile Text.isBlank with
  | '-' :: rest => (readUpTo rest.length rest).map fun p => (-(p.1 : Int), p.2)
  | '+' :: rest => (readUpTo rest.length rest).map fun p => ((p.1 : Int), p.2)
  | rest => (readUpTo 4 rest).map fun p => ((p.1 : Int), p.2)

/-- One or two digits. Blanks before them are skipped. -/
def readPart (cs : List Char) : Option (Nat × List Char) :=
  readUpTo 2 (cs.dropWhile Text.isBlank)

/-- A date at the front of a text: year, month and day with hyphens between them. -/
def readDate (cs : List Char) : Option (Date × List Char) := do
  let (year, cs) ← readYear cs
  let cs ← readChar '-' cs
  let (month, cs) ← readPart cs
  let cs ← readChar '-' cs
  let (day, cs) ← readPart cs
  let date ← Date.of? year month day
  return (date, cs)

/-- A date, the letter `T` and a time, taken as UTC. -/
def readWithoutOffset (cs : List Char) : Option Instant := do
  let (date, cs) ← readDate cs
  let cs ← readChar 'T' cs
  let (hour, cs) ← readPart cs
  let cs ← readChar ':' cs
  let (minute, cs) ← readPart cs
  let cs ← readChar ':' cs
  let (second, cs) ← readPart cs
  let (nanosecond, cs) ← readFraction cs
  let time ← TimeOfDay.of? hour minute second nanosecond
  if cs.isEmpty then some ⟨date, time⟩ else none

/-- A plain date, taken as its start in UTC. -/
def readPlainDate (cs : List Char) : Option Instant := do
  let (date, cs) ← readDate cs
  if cs.isEmpty then some ⟨date, .midnight⟩ else none

/-- A text without its last character, if that is `Z`. -/
def dropZulu (cs : List Char) : List Char :=
  if cs.getLast? == some 'Z' then cs.dropLast else cs

/-- A timestamp, blanks around it skipped: with an offset, else as date and time with at
most one `Z` at the end, else as a plain date. -/
def read? (s : String) : Option Instant :=
  let cs := Text.trimChars s.toList
  (readWithOffset cs).orElse fun _ =>
    (readWithoutOffset (dropZulu cs)).orElse fun _ => readPlainDate cs

/-- An offset of a stored time, after blanks: the letters `UTC`, the letter `Z`, or a sign,
hours and minutes, with colons or blanks between them. -/
def readStoredOffset (cs : List Char) : Option (Int × List Char) :=
  match cs.dropWhile Text.isBlank with
  | 'Z' :: rest => some (0, rest)
  | 'z' :: rest => some (0, rest)
  | cs =>
    if Text.eqIgnoreCase (String.ofList (cs.take 3)) "UTC" then some (0, cs.drop 3)
    else do
      let (negative, rest) ← readOffsetSign cs
      let (hours, rest) ← readExactly 2 rest
      let (minutes, rest) ← readExactly 2 (rest.dropWhile fun c => c == ':' || Text.isBlank c)
      if hours < 24 ∧ minutes < 60 then
        let total : Int := hours * 60 + minutes
        return (if negative then -total else total, rest)
      else none

/-- A stored time: date, time and offset, where parts may be short and blanks may stand
between them. -/
def readStored? (s : String) : Option Instant := do
  let blank (cs : List Char) := cs.dropWhile Text.isBlank
  let (year, cs) ← readYear s.toList
  let (month, cs) ← readPart (← readChar '-' (blank cs))
  let (day, cs) ← readPart (← readChar '-' (blank cs))
  let (hour, cs) ← readPart (← readSeparator cs)
  let (minute, cs) ← readPart (← readChar ':' (blank cs))
  let (second, cs) ← readPart (← readChar ':' (blank cs))
  let (nanosecond, cs) ← readFraction cs
  let (ahead, cs) ← readStoredOffset cs
  let date ← Date.of? year month day
  let time ← TimeOfDay.of? hour minute second nanosecond
  if (blank cs).isEmpty then some (ofLocal date time ahead) else none

end Instant

end ApiContract
