import ApiContract.Text.Hex
import ApiContract.Yaml.Place

/-!
# YAML scalars

A scalar is written plainly, in single or double quotes, or as a block. Line breaks inside
a plain or quoted scalar are folded: a single one is a blank, and of several the first is
lost.

## Main definitions

* `Yaml.readPlain` — a scalar without quotes
* `Yaml.readSingle`, `Yaml.readDouble` — a scalar in quotes
* `Yaml.readBlock` — a scalar as a block
-/

namespace ApiContract.Yaml

/-- What stands between two words: gaps, or line breaks, of which the first may have been
escaped. Both are kept in reverse order. -/
inductive Between where
  | gaps (read : List Char)
  | breaks (escaped : Bool) (read : List Char)

namespace Between

/-- Nothing between two words. -/
def nothing : Between := .gaps []

/-- A further gap; gaps at the front of a line are lost. -/
def gap (c : Char) : Between → Between
  | .gaps read => .gaps (c :: read)
  | b => b

/-- A further line break; gaps at the end of a line are lost. -/
def newLine (c : Char) : Between → Between
  | .gaps _ => .breaks false [c]
  | .breaks escaped read => .breaks escaped (c :: read)

/-- What stands between two words once lines are folded, in reverse order. -/
def folded : Between → List Char
  | .gaps read => read
  | .breaks true read => read
  | .breaks false read =>
    match read.reverse with
    | ['\n'] => [' ']
    | '\n' :: later => later.reverse
    | _ => read

/-- Whether a line was broken. -/
def isBroken : Between → Bool
  | .gaps _ => false
  | .breaks .. => true

/-- Whether words are apart. -/
def isApart : Between → Bool
  | .gaps read => !read.isEmpty
  | .breaks .. => true

end Between

/-! ### Plain scalars -/

/-- Whether a character separates or encloses in a flow collection. -/
def isFlowIndicator (c : Char) : Bool :=
  c == ',' || c == '[' || c == ']' || c == '\x7b' || c == '\x7d'

/-- Whether a plain scalar may start here. -/
def startsPlain (flow : Bool) : List Char → Bool
  | [] => false
  | '-' :: rest => !(match rest with | [] => false | c :: _ => isGap c || isBreak c)
  | '?' :: rest => !flow && !stops rest
  | ':' :: rest => !flow && !stops rest
  | c :: _ => !(isGap c || isBreak c || isFlowIndicator c || "#&*!|>'\"%@\x60".toList.contains c)

/-- Whether a plain scalar ends before a character. -/
def endsPlain (flow : Bool) (c : Char) (rest : List Char) : Bool :=
  (c == ':' && stops rest) || (flow && isFlowIndicator c)

/-- Whether a colon stands where a flow collection allows none. -/
def badColon (flow : Bool) (c : Char) : List Char → Bool
  | [] => false
  | d :: _ => flow && c == ':' && (isFlowIndicator d || d == '?')

/-- The characters of a plain scalar in reverse order, the mark after it and the text that is
left. In a block, lines that continue it are indented by at least `indent`. -/
def plainFrom (flow : Bool) (indent : Nat) (read : List Char) (between : Between) (m : Mark) :
    List Char → Option (List Char × Mark × List Char)
  | [] => some (read, { m with fresh := between.isBroken }, [])
  | c :: rest =>
    let stop := some (read, { m with fresh := between.isBroken }, c :: rest)
    if isBreak c then plainFrom flow indent read (between.newLine c) m.nextLine rest
    else if isGap c then
      if between.isBroken && m.column < indent && c == '\t' then none
      else plainFrom flow indent read (between.gap c) m.next rest
    else if m.column == 0 && startsMarker (c :: rest) then stop
    else if between.isApart && c == '#' then stop
    else if between.isBroken && !flow && m.column < indent then stop
    else if badColon flow c rest then none
    else if endsPlain flow c rest then stop
    else plainFrom flow indent (c :: (between.folded ++ read)) .nothing m.next rest

/-- A plain scalar whose further lines are indented deeper than `indent`. -/
def readPlain (flow : Bool) (indent : Int) (p : Place) : Option (String × Place) :=
  if startsPlain flow p.rest then
    (plainFrom flow (indent + 1).toNat [] .nothing p.mark p.rest).map fun (read, mark, rest) =>
      (String.ofList read.reverse, { p with mark, rest })
  else none

/-! ### Quoted scalars -/

/-- The text up to the closing single quote, in reverse order. A quote inside is written
twice. `front` says whether a line has just begun. -/
def singleFrom (read : List Char) (between : Between) (front : Bool) :
    List Char → Option (List Char × List Char)
  | [] => none
  | '\'' :: '\'' :: rest => singleFrom ('\'' :: (between.folded ++ read)) .nothing false rest
  | '\'' :: rest => some (between.folded ++ read, rest)
  | c :: rest =>
    if isBreak c then singleFrom read (between.newLine c) true rest
    else if isGap c then singleFrom read (between.gap c) false rest
    else if front && startsMarker (c :: rest) then none
    else singleFrom (c :: (between.folded ++ read)) .nothing false rest

/-- What a one-letter escape in double quotes stands for. -/
def escape? : Char → Option Char
  | '0' => some '\x00'
  | 'a' => some '\x07'
  | 'b' => some '\x08'
  | 't' => some '\t'
  | '\t' => some '\t'
  | 'n' => some '\n'
  | 'v' => some '\x0B'
  | 'f' => some '\x0C'
  | 'r' => some '\r'
  | 'e' => some '\x1B'
  | ' ' => some ' '
  | '"' => some '"'
  | '/' => some '/'
  | '\\' => some '\\'
  | 'N' => some '\u0085'
  | '_' => some '\u00A0'
  | 'L' => some '\u2028'
  | 'P' => some '\u2029'
  | _ => none

/-- The character of a number, unless it is a surrogate or too large. -/
def ofCodePoint? (digits : List Char) : Option Char := do
  let n ← Hex.number? digits
  if n < 0xD800 ∨ (0xDFFF < n ∧ n ≤ 0x10FFFF) then some (Char.ofNat n) else none

/-- The text up to the closing double quote, in reverse order. -/
def doubleFrom (read : List Char) (between : Between) (front : Bool) :
    List Char → Option (List Char × List Char)
  | [] => none
  | '"' :: rest => some (between.folded ++ read, rest)
  | '\\' :: 'x' :: a :: b :: rest => do
    let c ← ofCodePoint? [a, b]
    doubleFrom (c :: (between.folded ++ read)) .nothing false rest
  | '\\' :: 'u' :: a :: b :: c :: d :: rest => do
    let c ← ofCodePoint? [a, b, c, d]
    doubleFrom (c :: (between.folded ++ read)) .nothing false rest
  | '\\' :: 'U' :: a :: b :: c :: d :: e :: f :: g :: h :: rest => do
    let c ← ofCodePoint? [a, b, c, d, e, f, g, h]
    doubleFrom (c :: (between.folded ++ read)) .nothing false rest
  | '\\' :: c :: rest =>
    if isBreak c then doubleFrom (between.folded ++ read) (.breaks true []) true rest
    else match escape? c with
      | some e => doubleFrom (e :: (between.folded ++ read)) .nothing false rest
      | none => none
  | c :: rest =>
    if isBreak c then doubleFrom read (between.newLine c) true rest
    else if isGap c then doubleFrom read (between.gap c) false rest
    else if front && startsMarker (c :: rest) || c == '\\' then none
    else doubleFrom (c :: (between.folded ++ read)) .nothing false rest

/-- A scalar in quotes, read from after its opening quote. -/
def readQuoted (body : List Char → Option (List Char × List Char)) (p : Place) :
    Option (String × Place) :=
  (body (p.rest.drop 1)).map fun (read, rest) => (String.ofList read.reverse, p.upTo rest)

/-- A scalar in single quotes. -/
def readSingle (p : Place) : Option (String × Place) :=
  readQuoted (singleFrom [] .nothing false) p

/-- A scalar in double quotes. -/
def readDouble (p : Place) : Option (String × Place) :=
  readQuoted (doubleFrom [] .nothing false) p

/-! ### Blocks -/

/-- What becomes of the line breaks at the end of a block. -/
inductive Chomping where
  | strip
  | clip
  | keep

/-- The sign of a block's header, if there is one. -/
def readChomping : List Char → Option Chomping × List Char
  | '+' :: rest => (some .keep, rest)
  | '-' :: rest => (some .strip, rest)
  | cs => (none, cs)

/-- The digit of a block's header, if there is one; zero is refused. -/
def readIndent : List Char → Option (Option Nat × List Char)
  | c :: rest =>
    if c == '0' then none
    else if '1' ≤ c ∧ c ≤ '9' then some (some (c.toNat - '0'.toNat), rest)
    else some (none, c :: rest)
  | [] => some (none, [])

/-- The header of a block up to the end of its line. -/
def readHeader (cs : List Char) : Option (Chomping × Option Nat × List Char) := do
  let (before, cs) := readChomping cs
  let (indent, cs) ← readIndent cs
  let (after, cs) := if before.isSome then (none, cs) else readChomping cs
  let chomping := (before.orElse fun _ => after).getD .clip
  match cs.dropWhile isGap with
  | [] => some (chomping, indent, [])
  | '#' :: rest => some (chomping, indent, (rest.dropWhile fun c => !isBreak c).drop 1)
  | c :: rest => if isBreak c then some (chomping, indent, rest) else none

/-- The blank lines at the front of a text: their breaks in reverse order, the deepest
column, the column at which they end, and the text that is left. With an indentation given,
deeper blanks belong to the content. -/
def blankLines (indent? : Option Nat) (deepest : Nat) (breaks : List Char) :
    Nat → List Char → Option (List Char × Nat × Nat × List Char)
  | 0, _ => none
  | fuel + 1, cs =>
    let blanks := (cs.takeWhile (· == ' ')).length
    let column := match indent? with
      | some n => min n blanks
      | none => blanks
    let deepest := max deepest column
    match cs.drop column with
    | [] => some (breaks, deepest, column, [])
    | c :: rest =>
      if isBreak c then blankLines indent? deepest (c :: breaks) fuel rest
      else if c == '\t' && (indent?.all (column < ·)) then none
      else some (breaks, deepest, column, c :: rest)

/-- The lines of a block, in reverse order: the text, the last line break and the breaks of
the blank lines after it. `wasDeep` tells whether the line before started with a gap. -/
def blockLines (literal : Bool) (indent : Nat) : Nat → List Char → Option Char → List Char →
    Bool → Nat → List Char → Option (List Char × Option Char × List Char × List Char)
  | 0, _, _, _, _, _, _ => none
  | fuel + 1, read, last, blank, wasDeep, column, cs =>
    match cs with
    | [] => some (read, last, blank, [])
    | c :: _ =>
      if column ≠ indent then
        some (read, last, blank, List.replicate column ' ' ++ cs)
      else do
        let deep := isGap c
        let joined :=
          if !literal && last == some '\n' && !wasDeep && !deep then
            if blank.isEmpty then ' ' :: read else read
          else last.toList ++ read
        let line := cs.takeWhile fun c => !isBreak c
        let after := cs.drop line.length
        let (breaks, _, column, rest) ← blankLines (some indent) 0 [] fuel (after.drop 1)
        blockLines literal indent fuel (line.reverse ++ (blank ++ joined)) after.head? breaks deep
          column rest

/-- A scalar as a block, whose lines are indented deeper than `indent`. -/
def readBlock (literal : Bool) (indent : Int) (p : Place) : Option (String × Place) := do
  let (chomping, given, cs) ← readHeader (p.rest.drop 1)
  let fuel := cs.length + 2
  let base := given.map fun n => if 0 ≤ indent then indent.toNat + n else n
  let (blank, deepest, column, rest) ← blankLines base 0 [] fuel cs
  let depth := base.getD (max (max deepest (indent + 1).toNat) 1)
  let (read, last, blank, rest) ← blockLines literal depth fuel [] none blank false column rest
  let ending := match chomping with
    | .strip => []
    | .clip => last.toList
    | .keep => blank ++ last.toList
  let stop := p.upTo rest
  let (mark, rest) := Place.skipFrom false false { stop.mark with fresh := true } stop.rest
  return (String.ofList (ending ++ read).reverse, { p with mark, rest })

end ApiContract.Yaml
