import ApiContract.Time.Instant

/-!
# Timestamp patterns

A timestamp is written after a pattern, in which `%` and a letter stand for a part of the
date or the time. Between the two may stand `-`, `0` or `_`, which ask for no padding,
zeros or blanks and are allowed only before a single number.

## Main definitions

* `TimePattern.Item` — a part of a pattern
* `TimePattern.read?` — the items of a pattern text, if it is valid
* `TimePattern.format` — a point in time written after a pattern
* `TimePattern.default` — the pattern of responses
-/

namespace ApiContract.TimePattern

/-- How a number is brought to its width. -/
inductive Padding where
  | none
  | zero
  | space
  deriving DecidableEq, Repr

/-- The numbers that a pattern may name. -/
inductive Quantity where
  | year | century | yearOfCentury
  | isoYear | isoYearOfCentury
  | month | day | ordinal | quarter
  | weekFromSunday | weekFromMonday | isoWeek
  | dayFromSunday | dayFromMonday
  | hour | hour12 | minute | second | nanosecond
  | unixSeconds
  deriving DecidableEq, Repr

/-- The words and compound texts that a pattern may name. -/
inductive Phrase where
  | monthName | shortMonthName
  | weekdayName | shortWeekdayName
  | lowerHalf | upperHalf
  | fraction
  | fractionDigits (digits : Nat) (withPoint : Bool)
  | zoneName
  | offset | offsetColon | offsetSeconds | offsetHours
  | full
  deriving DecidableEq, Repr

/-- A part of a pattern. -/
inductive Item where
  | literal (c : Char)
  | number (quantity : Quantity) (padding : Padding)
  | phrase (phrase : Phrase)
  deriving DecidableEq, Repr

/-- Numbers with colons between them. -/
def clock (quantities : List Quantity) : List Item :=
  List.intercalate [.literal ':'] (quantities.map fun q => [.number q .zero])

/-- Month, day and year of the century with slashes. -/
def slashDate : List Item :=
  List.intercalate [.literal '/']
    ([.month, .day, .yearOfCentury].map fun q => [.number q .zero])

/-- What a single letter after `%` stands for. -/
def letter? : Char → Option (List Item)
  | 'A' => some [.phrase .weekdayName]
  | 'B' => some [.phrase .monthName]
  | 'C' => some [.number .century .zero]
  | 'D' => some slashDate
  | 'F' => some [.number .year .zero, .literal '-', .number .month .zero, .literal '-',
      .number .day .zero]
  | 'G' => some [.number .isoYear .zero]
  | 'H' => some [.number .hour .zero]
  | 'I' => some [.number .hour12 .zero]
  | 'M' => some [.number .minute .zero]
  | 'P' => some [.phrase .lowerHalf]
  | 'R' => some (clock [.hour, .minute])
  | 'S' => some [.number .second .zero]
  | 'T' => some (clock [.hour, .minute, .second])
  | 'U' => some [.number .weekFromSunday .zero]
  | 'V' => some [.number .isoWeek .zero]
  | 'W' => some [.number .weekFromMonday .zero]
  | 'X' => some (clock [.hour, .minute, .second])
  | 'Y' => some [.number .year .zero]
  | 'Z' => some [.phrase .zoneName]
  | 'a' => some [.phrase .shortWeekdayName]
  | 'b' => some [.phrase .shortMonthName]
  | 'c' => some ([.phrase .shortWeekdayName, .literal ' ', .phrase .shortMonthName,
      .literal ' ', .number .day .space, .literal ' '] ++ clock [.hour, .minute, .second] ++
      [.literal ' ', .number .year .zero])
  | 'd' => some [.number .day .zero]
  | 'e' => some [.number .day .space]
  | 'f' => some [.number .nanosecond .zero]
  | 'g' => some [.number .isoYearOfCentury .zero]
  | 'h' => some [.phrase .shortMonthName]
  | 'j' => some [.number .ordinal .zero]
  | 'k' => some [.number .hour .space]
  | 'l' => some [.number .hour12 .space]
  | 'm' => some [.number .month .zero]
  | 'n' => some [.literal '\n']
  | 'p' => some [.phrase .upperHalf]
  | 'q' => some [.number .quarter .none]
  | 'r' => some (clock [.hour12, .minute, .second] ++ [.literal ' ', .phrase .upperHalf])
  | 's' => some [.number .unixSeconds .none]
  | 't' => some [.literal '\t']
  | 'u' => some [.number .dayFromMonday .none]
  | 'v' => some [.number .day .space, .literal '-', .phrase .shortMonthName, .literal '-',
      .number .year .zero]
  | 'w' => some [.number .dayFromSunday .none]
  | 'x' => some slashDate
  | 'y' => some [.number .yearOfCentury .zero]
  | 'z' => some [.phrase .offset]
  | '+' => some [.phrase .full]
  | '%' => some [.literal '%']
  | _ => none

/-- What stands after `%` without a padding mark, and the rest of the pattern. -/
def readSpecifier : List Char → Option (List Item × List Char)
  | ':' :: ':' :: ':' :: 'z' :: rest => some ([.phrase .offsetHours], rest)
  | ':' :: ':' :: 'z' :: rest => some ([.phrase .offsetSeconds], rest)
  | ':' :: 'z' :: rest => some ([.phrase .offsetColon], rest)
  | '#' :: 'z' :: rest => some ([.phrase .offset], rest)
  | '.' :: 'f' :: rest => some ([.phrase .fraction], rest)
  | '.' :: '3' :: 'f' :: rest => some ([.phrase (.fractionDigits 3 true)], rest)
  | '.' :: '6' :: 'f' :: rest => some ([.phrase (.fractionDigits 6 true)], rest)
  | '.' :: '9' :: 'f' :: rest => some ([.phrase (.fractionDigits 9 true)], rest)
  | '3' :: 'f' :: rest => some ([.phrase (.fractionDigits 3 false)], rest)
  | '6' :: 'f' :: rest => some ([.phrase (.fractionDigits 6 false)], rest)
  | '9' :: 'f' :: rest => some ([.phrase (.fractionDigits 9 false)], rest)
  | c :: rest => (letter? c).map fun items => (items, rest)
  | [] => none

/-- The padding that a mark asks for. -/
def padding? : Char → Option Padding
  | '-' => some .none
  | '0' => some .zero
  | '_' => some .space
  | _ => none

/-- A number with another padding. -/
def repad (padding : Padding) : List Item → Option (List Item)
  | [.number q _] => some [.number q padding]
  | _ => none

/-- What stands after `%`, and the rest of the pattern. -/
def readMarked : List Char → Option (List Item × List Char)
  | [] => none
  | c :: rest =>
    match padding? c with
    | some padding => do
      let (items, rest) ← readSpecifier rest
      let items ← repad padding items
      return (items, rest)
    | none => readSpecifier (c :: rest)

/-- The items of a pattern, read with at most `fuel` steps. -/
def readItems : Nat → List Char → Option (List Item)
  | _, [] => some []
  | 0, _ => none
  | fuel + 1, '%' :: rest => do
    let (items, rest) ← readMarked rest
    let more ← readItems fuel rest
    return items ++ more
  | fuel + 1, c :: rest => (readItems fuel rest).map (Item.literal c :: ·)

/-- The items of a pattern, if it is valid. -/
def read? (pattern : String) : Option (List Item) :=
  readItems pattern.length pattern.toList

/-! ### Writing -/

/-- A natural number with zeros in front up to a width. -/
def zeroPadded (width n : Nat) : List Char :=
  let digits := Nat.toDigits 10 n
  List.replicate (width - digits.length) '0' ++ digits

/-- A number brought to a width. The sign counts towards the width and stands before the
zeros. -/
def pad (padding : Padding) (width : Nat) (plusSign : Bool) (n : Int) : List Char :=
  let sign := if n < 0 then ['-'] else if plusSign then ['+'] else []
  let width := if plusSign then width + 1 else width
  match padding with
  | .none => sign ++ Nat.toDigits 10 n.natAbs
  | .zero => sign ++ zeroPadded (width - sign.length) n.natAbs
  | .space =>
    let body := sign ++ Nat.toDigits 10 n.natAbs
    List.replicate (width - body.length) ' ' ++ body

/-- A year has four digits, and a sign when they do not suffice or it is negative. -/
def writeYear (padding : Padding) (year : Int) : List Char :=
  pad padding 4 (year < 0 || 9999 < year) year

/-- The century of a year in two characters. It is counted in a byte, and its tens stand in
one character, which goes on after the nine. -/
def writeCentury (padding : Padding) (year : Int) : List Char :=
  let century := (year / 100 % 256).toNat
  let digit (n : Nat) : Char := Char.ofNat ('0'.toNat + n)
  match padding, century / 10 with
  | .none, 0 => [digit century]
  | .space, 0 => [' ', digit century]
  | _, tens => [digit tens, digit (century % 10)]

/-- The hour on a clock of twelve. -/
def hour12 (hour : Nat) : Nat :=
  if hour % 12 = 0 then 12 else hour % 12

/-- A number of a point in time. -/
def writeQuantity (padding : Padding) (t : Instant) : Quantity → List Char
  | .year => writeYear padding t.date.year
  | .century => writeCentury padding t.date.year
  | .yearOfCentury => pad padding 2 false (t.date.year % 100)
  | .isoYear => writeYear padding t.date.isoWeek.1
  | .isoYearOfCentury => pad padding 2 false (t.date.isoWeek.1 % 100)
  | .month => pad padding 2 false t.date.month
  | .day => pad padding 2 false t.date.day
  | .ordinal => pad padding 3 false t.date.ordinal
  | .quarter => pad padding 1 false ((t.date.month - 1) / 3 + 1 : Nat)
  | .weekFromSunday => pad padding 2 false t.date.weekFromSunday
  | .weekFromMonday => pad padding 2 false t.date.weekFromMonday
  | .isoWeek => pad padding 2 false t.date.isoWeek.2
  | .dayFromSunday => pad padding 1 false t.date.weekdayFromSunday
  | .dayFromMonday => pad padding 1 false (t.date.weekday + 1)
  | .hour => pad padding 2 false t.time.hour
  | .hour12 => pad padding 2 false (hour12 t.time.hour)
  | .minute => pad padding 2 false t.time.minute
  | .second => pad padding 2 false t.time.second
  | .nanosecond => pad padding 9 false t.time.nanosecond
  | .unixSeconds => pad padding 9 false t.unixSeconds

/-- A point and as many digits of the second, in groups of three, as the nanoseconds need;
nothing when there are none. -/
def writeFraction (nanosecond : Nat) : List Char :=
  if nanosecond = 0 then []
  else if nanosecond % 1000000 = 0 then '.' :: zeroPadded 3 (nanosecond / 1000000)
  else if nanosecond % 1000 = 0 then '.' :: zeroPadded 6 (nanosecond / 1000)
  else '.' :: zeroPadded 9 nanosecond

/-- Date and time with as many digits of the second as needed, before an offset. -/
def writeFull (t : Instant) : List Char :=
  writeYear .zero t.date.year ++ '-' :: zeroPadded 2 t.date.month ++
    '-' :: zeroPadded 2 t.date.day ++ 'T' :: zeroPadded 2 t.time.hour ++
    ':' :: zeroPadded 2 t.time.minute ++ ':' :: zeroPadded 2 t.time.second ++
    writeFraction t.time.nanosecond

/-- A word or compound text of a point in time. -/
def writePhrase (t : Instant) : Phrase → List Char
  | .monthName => t.date.monthName.toList
  | .shortMonthName => t.date.monthName.toList.take 3
  | .weekdayName => t.date.weekdayName.toList
  | .shortWeekdayName => t.date.weekdayName.toList.take 3
  | .lowerHalf => if t.time.hour < 12 then ['a', 'm'] else ['p', 'm']
  | .upperHalf => if t.time.hour < 12 then ['A', 'M'] else ['P', 'M']
  | .fraction => writeFraction t.time.nanosecond
  | .fractionDigits digits withPoint =>
    (if withPoint then ['.'] else []) ++
      zeroPadded digits (t.time.nanosecond / Nat.pow 10 (9 - digits))
  | .zoneName => "UTC".toList
  | .offset => "+0000".toList
  | .offsetColon => "+00:00".toList
  | .offsetSeconds => "+00:00:00".toList
  | .offsetHours => "+00".toList
  | .full => writeFull t ++ "+00:00".toList

/-- An item of a pattern for a point in time. -/
def writeItem (t : Instant) : Item → List Char
  | .literal c => [c]
  | .number q padding => writeQuantity padding t q
  | .phrase p => writePhrase t p

/-- A point in time written after a pattern. -/
def format (items : List Item) (t : Instant) : String :=
  String.ofList (items.flatMap (writeItem t))

/-- The pattern of responses: date and time with six digits of the second, in UTC. -/
def default : List Item :=
  [.number .year .zero, .literal '-', .number .month .zero, .literal '-', .number .day .zero,
    .literal 'T', .number .hour .zero, .literal ':', .number .minute .zero, .literal ':',
    .number .second .zero, .phrase (.fractionDigits 6 true), .literal 'Z']

/-- A point in time with as many digits of the second as needed and a `Z`. -/
def formatExact (t : Instant) : String :=
  String.ofList (writeFull t ++ ['Z'])

end ApiContract.TimePattern
