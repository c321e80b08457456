import ApiContract.Decimal.Read
import ApiContract.Json.Value
import ApiContract.Text.Hex

/-!
# TOML scalars

The scalars of a TOML document are strings in four styles, numbers, booleans, dates and
times. What stands after a scalar is the matter of its reader.

## Main definitions

* `Toml.readString` — a string on one line or on many, with or without escapes
* `Toml.readNumber` — an integer or a float
* `Toml.readMoment` — a date, a time, or both
-/

namespace ApiContract.Toml

/-- What a reader yields: what it read, and the characters that are left. -/
abbrev Reader (α : Type) := List Char → Option (α × List Char)

/-- Whether a character is a blank inside a line. -/
def isGap (c : Char) : Bool := c = ' ' || c = '\t'

/-- The characters after the blanks at the front. -/
def skipGaps (cs : List Char) : List Char := cs.dropWhile isGap

/-- Whether a character may stand in a comment or in a string as it is. -/
def isPlain (c : Char) : Bool :=
  c = '\t' || (0x20 ≤ c.toNat && c.toNat ≠ 0x7F)

/-- The characters after a line break. -/
def afterBreak? : List Char → Option (List Char)
  | '\n' :: rest => some rest
  | '\r' :: '\n' :: rest => some rest
  | _ => none

/-! ### Strings -/

/-- The character that an escape of one letter stands for. -/
def escape? : Char → Option Char
  | 'b' => some '\x08'
  | 't' => some '\t'
  | 'n' => some '\n'
  | 'f' => some '\x0C'
  | 'r' => some '\r'
  | '"' => some '"'
  | '\\' => some '\\'
  | _ => none

/-- The character of a code point in hexadecimal digits. -/
def ofCodePoint? (digits : List Char) : Option Char := do
  let n ← Hex.number? digits
  if n.isValidChar then some (Char.ofNat n) else none

/-- An escape, after its backslash. -/
def readEscape : Reader Char
  | 'u' :: a :: b :: c :: d :: rest => (ofCodePoint? [a, b, c, d]).map (·, rest)
  | 'U' :: a :: b :: c :: d :: e :: f :: g :: h :: rest =>
    (ofCodePoint? [a, b, c, d, e, f, g, h]).map (·, rest)
  | c :: rest => (escape? c).map (·, rest)
  | [] => none

/-- The characters after a backslash that ends a line: all blanks and line breaks up to the
next character are left out. -/
def afterJoin? (cs : List Char) : Option (List Char) :=
  (afterBreak? (skipGaps cs)).map skipAll
where
  /-- The characters after all blanks and line breaks. -/
  skipAll : List Char → List Char
    | '\n' :: rest => skipAll rest
    | '\r' :: '\n' :: rest => skipAll rest
    | ' ' :: rest => skipAll rest
    | '\t' :: rest => skipAll rest
    | cs => cs

/-- The rest of a string on one line, up to its quote. Only a string in double quotes has
escapes. -/
def readLine (quote : Char) : Nat → Reader (List Char)
  | 0, _ => none
  | fuel + 1, c :: rest =>
    if c = quote then some ([], rest)
    else if c = '\\' && quote = '"' then do
      let (e, rest) ← readEscape rest
      let (more, rest) ← readLine quote fuel rest
      return (e :: more, rest)
    else if isPlain c then do
      let (more, rest) ← readLine quote fuel rest
      return (c :: more, rest)
    else none
  | _ + 1, [] => none

/-- The rest of a string on many lines, up to three quotes; up to two quotes before them
belong to the string. -/
def readLines (quote : Char) : Nat → Reader (List Char)
  | 0, _ => none
  | fuel + 1, cs =>
    let quotes := cs.takeWhile (· == quote)
    if 3 ≤ quotes.length then
      let own := min 2 (quotes.length - 3)
      some (quotes.take own, cs.drop (own + 3))
    else match cs with
      | [] => none
      | c :: rest =>
        match afterBreak? cs with
        | some rest => (readLines quote fuel rest).map fun (more, rest) => ('\n' :: more, rest)
        | none =>
          if c = '\\' && quote = '"' then
            match afterJoin? rest with
            | some rest => readLines quote fuel rest
            | none => do
              let (e, rest) ← readEscape rest
              let (more, rest) ← readLines quote fuel rest
              return (e :: more, rest)
          else if isPlain c then
            (readLines quote fuel rest).map fun (more, rest) => (c :: more, rest)
          else none

/-- A string in either quote, on one line. -/
def readQuoted : Reader String
  | [] => none
  | q :: rest =>
    if q = '"' || q = '\'' then
      (readLine q (rest.length + 1) rest).map fun (cs, rest) => (String.ofList cs, rest)
    else none

/-- A string in either quote, on one line or on many. A line break that comes first is left
out. -/
def readString : Reader String
  | q :: q' :: q'' :: rest =>
    if (q = '"' || q = '\'') && q = q' && q = q'' then
      let body := (afterBreak? rest).getD rest
      (readLines q (body.length + 1) body).map fun (cs, rest) => (String.ofList cs, rest)
    else readQuoted (q :: q' :: q'' :: rest)
  | cs => readQuoted cs

/-! ### Numbers -/

/-- More digits, of which single underscores may stand between two. -/
def moreDigits (isDigit : Char → Bool) : List Char → List Char × List Char
  | '_' :: c :: rest =>
    if isDigit c then
      let (more, rest) := moreDigits isDigit rest
      (c :: more, rest)
    else ([], '_' :: c :: rest)
  | c :: rest =>
    if isDigit c then
      let (more, rest) := moreDigits isDigit rest
      (c :: more, rest)
    else ([], c :: rest)
  | [] => ([], [])

/-- One or more digits. -/
def readDigits (isDigit : Char → Bool) : Reader (List Char)
  | c :: rest =>
    if isDigit c then
      let (more, rest) := moreDigits isDigit rest
      some (c :: more, rest)
    else none
  | [] => none

/-- The digits before the point: a zero stands alone. -/
def readWhole : Reader (List Char)
  | '0' :: rest => some (['0'], rest)
  | cs => readDigits Decimal.isDigit cs

/-- A whole number that fits 64 bits with a sign. -/
def whole? (n : Int) : Option Json :=
  if Decimal.isInt64 n then some (.int n) else none

/-- A number in a base that is marked by a letter. -/
def readMarked (base : Nat) (cs : List Char) : Option (Json × List Char) := do
  let (digits, rest) ← readDigits (fun c => (Hex.value? c).any (· < base)) cs
  let n := digits.foldl (fun n c => n * base + (Hex.value? c).getD 0) 0
  return (← whole? n, rest)

/-- A point and digits, or nothing. -/
def readFraction : Reader (List Char)
  | '.' :: rest => (readDigits Decimal.isDigit rest).map fun (ds, rest) => ('.' :: ds, rest)
  | cs => some ([], cs)

/-- An exponent, or nothing. -/
def readExponent : Reader (List Char)
  | c :: rest =>
    if c = 'e' || c = 'E' then
      let (negative, digits) := Decimal.takeSign rest
      (readDigits Decimal.isDigit digits).map fun (ds, rest) =>
        ('e' :: (if negative then ['-'] else []) ++ ds, rest)
    else some ([], c :: rest)
  | [] => some ([], [])

/-- A number without a sign. Too large a float is refused, unless it is negative. -/
def readUnsigned (negative : Bool) (cs : List Char) : Option (Json × List Char) := do
  let (whole, rest) ← readWhole cs
  let (fraction, rest) ← readFraction rest
  let (exponent, rest) ← readExponent rest
  if fraction.isEmpty && exponent.isEmpty then
    let n : Int := Decimal.ofDigits 0 whole
    return (← whole? (if negative then -n else n), rest)
  let x ← Decimal.readFloat? (String.ofList (whole ++ fraction ++ exponent))
  if x.isInf && !negative then none
  else return (Json.ofFloat (Decimal.signed negative x), rest)

/-- A number; infinities and not-a-number have no value in JSON and are `null`. -/
def readNumber (cs : List Char) : Option (Json × List Char) :=
  match cs with
  | '0' :: 'x' :: rest => readMarked 16 rest
  | '0' :: 'o' :: rest => readMarked 8 rest
  | '0' :: 'b' :: rest => readMarked 2 rest
  | _ =>
    match Decimal.takeSign cs with
    | (_, 'i' :: 'n' :: 'f' :: rest) => some (.null, rest)
    | (_, 'n' :: 'a' :: 'n' :: rest) => some (.null, rest)
    | (negative, rest) => readUnsigned negative rest

/-! ### Dates and times -/

/-- A number of exactly so many digits, within bounds. -/
def readField (width low high : Nat) (cs : List Char) : Option (Nat × List Char) :=
  let digits := cs.take width
  let n := Decimal.ofDigits 0 digits
  if digits.length = width && digits.all Decimal.isDigit && low ≤ n && n ≤ high then
    some (n, cs.drop width)
  else none

/-- How many days a month has. -/
def daysIn (year month : Nat) : Nat :=
  if month = 2 then
    if year % 4 = 0 && (year % 100 ≠ 0 || year % 400 = 0) then 29 else 28
  else if [4, 6, 9, 11].contains month then 30
  else 31

/-- A date. -/
def readDate (cs : List Char) : Option (List Char) := do
  let (year, rest) ← readField 4 0 9999 cs
  let rest ← Text.dropLeading? ['-'] rest
  let (month, rest) ← readField 2 1 12 rest
  let rest ← Text.dropLeading? ['-'] rest
  let (_, rest) ← readField 2 1 (daysIn year month) rest
  return rest

/-- A time of day. -/
def readTime (cs : List Char) : Option (List Char) := do
  let (_, rest) ← readField 2 0 23 cs
  let rest ← Text.dropLeading? [':'] rest
  let (_, rest) ← readField 2 0 59 rest
  let rest ← Text.dropLeading? [':'] rest
  let (_, rest) ← readField 2 0 60 rest
  match rest with
  | '.' :: c :: more => if Decimal.isDigit c then some (more.dropWhile Decimal.isDigit) else some rest
  | _ => some rest

/-- The offset of a time from UTC, or nothing. -/
def readOffset : List Char → Option (List Char)
  | 'Z' :: rest | 'z' :: rest => some rest
  | '+' :: rest | '-' :: rest => do
    let (_, rest) ← readField 2 0 23 rest
    let rest ← Text.dropLeading? [':'] rest
    let (_, rest) ← readField 2 0 59 rest
    return rest
  | cs => some cs

/-- Whether the characters start like a date. -/
def startsDate (cs : List Char) : Bool :=
  (cs.take 4).length = 4 && (cs.take 4).all Decimal.isDigit && cs[4]? == some '-'

/-- Whether the characters start like a time of day. -/
def startsTime (cs : List Char) : Bool :=
  (cs.take 2).length = 2 && (cs.take 2).all Decimal.isDigit && cs[2]? == some ':'

/-- The characters after a date, a time or both. -/
def afterMoment? (cs : List Char) : Option (List Char) := do
  if !startsDate cs then readTime cs
  else
    let rest ← readDate cs
    match rest with
    | c :: more =>
      if (c = 'T' || c = 't' || c = ' ') && startsTime more then readOffset (← readTime more)
      else some rest
    | [] => some []

/-- A date, a time or both, as an object whose only member has a name of its own. -/
def readMoment (cs : List Char) : Option (Json × List Char) := do
  let rest ← afterMoment? cs
  let text := String.ofList (cs.take (cs.length - rest.length))
  return (.obj [("$__toml_private_datetime", .str text)], rest)

end ApiContract.Toml
