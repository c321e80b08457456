import ApiContract.Decimal.Nearest

/-!
# The shortest decimal text of a float

A finite float is written with the fewest digits that read back as the same float; of
several such texts the one nearest to the float is taken.

## Main definitions

* `Decimal.shortest` — the digits and the power of ten
* `Decimal.Layout` — where positional notation ends and how an exponent is written
* `Decimal.render` — the text of a float in a layout
-/

namespace ApiContract.Decimal

/-- The reals that round to a float, doubled twice so that their ends are whole: those
between `low` and `high` in units of `2 ^ exponent`, with the ends when `closed`, around
`middle`. -/
structure Interval where
  low : Nat
  middle : Nat
  high : Nat
  exponent : Int
  closed : Bool
  deriving Repr, DecidableEq

/-- The interval of a float's parts. Below a power of two the neighbour is half as far. -/
def Parts.interval (p : Parts) : Interval :=
  let below := if p.mantissa = bound 52 ∧ p.exponent ≠ -1074 then 1 else 2
  { low := 4 * p.mantissa - below
    middle := 4 * p.mantissa
    high := 4 * p.mantissa + 2
    exponent := p.exponent - 2
    closed := p.mantissa % 2 = 0 }

/-- A power with an integer exponent as a pair of factors, one for each side of a
fraction. -/
def powSides (base : Nat) (e : Int) : Nat × Nat :=
  (Nat.pow base e.toNat, Nat.pow base (-e).toNat)

/-- Whether `d * 10 ^ p` lies in the interval. -/
def Interval.contains (i : Interval) (d : Nat) (p : Int) : Bool :=
  let (two, half) := powSides 2 i.exponent
  let (ten, tenth) := powSides 10 p
  let point := d * ten * half
  let low := i.low * two * tenth
  let high := i.high * two * tenth
  if i.closed then low ≤ point && point ≤ high else low < point && point < high

/-- The grid point `d * 10 ^ p` just below the middle of the interval. -/
def Interval.floor (i : Interval) (p : Int) : Nat :=
  let (two, half) := powSides 2 i.exponent
  let (ten, tenth) := powSides 10 p
  i.middle * two * tenth / (ten * half)

/-- Of the two grid points around the middle, whether the upper one is nearer, or as near
and even. -/
def Interval.prefersUpper (i : Interval) (d : Nat) (p : Int) : Bool :=
  let (two, half) := powSides 2 i.exponent
  let (ten, tenth) := powSides 10 p
  let middle := 2 * i.middle * two * tenth
  let centre := (2 * d + 1) * ten * half
  centre < middle || (centre == middle && d % 2 == 1)

/-- The point of the grid `10 ^ p` that lies in the interval and nearest to its middle. -/
def Interval.onGrid? (i : Interval) (p : Int) : Option Nat :=
  let d := i.floor p
  match i.contains d p, i.contains (d + 1) p with
  | true, true => some (if i.prefersUpper d p then d + 1 else d)
  | true, false => some d
  | false, true => some (d + 1)
  | false, false => none

/-- The first grid with a point in the interval, from the coarse end, `steps` grids at
most. -/
def Interval.search (i : Interval) (p : Int) : Nat → Nat × Int
  | 0 => (i.floor p, p)
  | steps + 1 =>
    match i.onGrid? p with
    | some d => (d, p)
    | none => i.search (p - 1) steps

/-- A power of ten above the middle of the interval. -/
def Interval.ceilingExponent (i : Interval) : Int :=
  let (two, half) := powSides 2 i.exponent
  let num := i.middle * two
  ((Nat.toDigits 10 num).length : Int) - (Nat.toDigits 10 half).length + 1

/-- Trailing zeros moved from the digits into the power of ten. -/
def stripZeros (d : Nat) (p : Int) : Nat → Nat × Int
  | 0 => (d, p)
  | steps + 1 => if d ≠ 0 ∧ d % 10 = 0 then stripZeros (d / 10) (p + 1) steps else (d, p)

/-- The digits and the power of ten of the shortest decimal that reads back as the float
with these parts. Zero is `0 * 10 ^ 0`. -/
def shortest (p : Parts) : Nat × Int :=
  if p.mantissa = 0 then (0, 0)
  else
    let i := p.interval
    let (d, e) := i.search i.ceilingExponent 24
    stripZeros d e 24

/-- How a decimal is laid out: numbers below `10 ^ positionalAbove` in size down to
`10 ^ positionalBelow` are written positionally, the others with an exponent, whose mark
and sign are given. -/
structure Layout where
  positionalBelow : Int
  positionalAbove : Int
  exponentMark : String
  plusSign : Bool
  infinite : String
  notANumber : String

/-- Digits with a point after the first and an exponent. -/
def Layout.scientific (l : Layout) (digits : List Char) (exponent : Int) : String :=
  let mantissa := match digits with
    | [] => "0"
    | [d] => String.ofList [d]
    | d :: rest => String.ofList (d :: '.' :: rest)
  let sign := if exponent < 0 then "-" else if l.plusSign then "+" else ""
  mantissa ++ l.exponentMark ++ sign ++ toString exponent.natAbs

/-- Digits times a power of ten, with a point and at least one digit on either side. -/
def positional (digits : List Char) (exponent : Int) : String :=
  if 0 ≤ exponent then String.ofList (digits ++ List.replicate exponent.toNat '0') ++ ".0"
  else
    let places := (-exponent).toNat
    if digits.length ≤ places then
      "0." ++ String.ofList (List.replicate (places - digits.length) '0' ++ digits)
    else
      String.ofList (digits.take (digits.length - places)) ++ "." ++
        String.ofList (digits.drop (digits.length - places))

/-- The text of a float. -/
def render (l : Layout) (x : Float) : String :=
  match parts? x with
  | none =>
    if x.isNaN then l.notANumber
    else if isNegative x then "-" ++ l.infinite else l.infinite
  | some p =>
    let sign := if p.negative then "-" else ""
    let (d, e) := shortest p
    let digits := Nat.toDigits 10 d
    let leading := e + digits.length
    let body :=
      if d = 0 then positional ['0'] 0
      else if l.positionalBelow < leading ∧ leading ≤ l.positionalAbove then positional digits e
      else l.scientific digits (leading - 1)
    sign ++ body

/-- Numbers from `0.00001` up to `10 ^ 16` are written positionally, and an exponent
carries its sign. -/
def numberLayout : Layout where
  positionalBelow := -5
  positionalAbove := 16
  exponentMark := "e"
  plusSign := true
  infinite := "inf"
  notANumber := "nan"

/-- The text of a float as documents and responses write it. -/
def text (x : Float) : String := render numberLayout x

end ApiContract.Decimal
