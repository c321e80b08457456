import ApiContract.Yaml.Node

/-!
# Places in YAML text

Reading goes from place to place. A place knows its line and column, because indentation is
structure, and whether a block may start there: at the front of a line, or after an
indicator that opens an entry.

## Main definitions

* `Yaml.lines?` — a text with its line breaks made alike, if all characters are allowed
* `Yaml.Mark`, `Yaml.Place` — where reading stands
* `Yaml.Place.skip` — the place of the next token
-/

namespace ApiContract.Yaml

/-- Whether a character may occur in a text. -/
def isAllowed (c : Char) : Bool :=
  let n := c.toNat
  n == 0x09 || n == 0x0A || n == 0x0D || (0x20 ≤ n && n ≤ 0x7E) || n == 0x85 ||
    (0xA0 ≤ n && n ≤ 0xD7FF) || (0xE000 ≤ n && n ≤ 0xFFFD) || 0x10000 ≤ n

/-- Carriage returns, line feeds, both together and next lines become line feeds. -/
def breaksAlike : List Char → List Char
  | [] => []
  | '\r' :: '\n' :: rest => '\n' :: breaksAlike rest
  | c :: rest => (if c == '\r' || c == '\u0085' then '\n' else c) :: breaksAlike rest

/-- A text without its byte order mark and with its line breaks made alike, if all its
characters are allowed. -/
def lines? (text : String) : Option (List Char) :=
  let cs := match text.toList with
    | '\uFEFF' :: rest => rest
    | cs => cs
  if cs.all isAllowed then some (breaksAlike cs) else none

/-- Whether a character ends a line. -/
def isBreak (c : Char) : Bool :=
  c == '\n' || c == '\u2028' || c == '\u2029'

/-- Whether a character separates words on a line. -/
def isGap (c : Char) : Bool :=
  c == ' ' || c == '\t'

/-- Whether a text ends, breaks or has a gap. -/
def stops : List Char → Bool
  | [] => true
  | c :: _ => isBreak c || isGap c

/-- Whether a text starts with a line that separates documents. -/
def startsMarker : List Char → Bool
  | '-' :: '-' :: '-' :: rest => stops rest
  | '.' :: '.' :: '.' :: rest => stops rest
  | _ => false

/-- Where reading stands: column, line, number of characters read, and whether a block may
start. -/
structure Mark where
  column : Nat := 0
  line : Nat := 0
  offset : Nat := 0
  fresh : Bool := true
  deriving Repr

namespace Mark

/-- The mark after a character that ends no line. -/
def next (m : Mark) : Mark :=
  { m with column := m.column + 1, offset := m.offset + 1 }

/-- The mark at the front of the next line. -/
def nextLine (m : Mark) : Mark :=
  { m with column := 0, line := m.line + 1, offset := m.offset + 1 }

/-- The mark after the given characters. -/
def past (m : Mark) (read : List Char) : Mark :=
  read.foldl (fun m c => if isBreak c then m.nextLine else m.next) m

end Mark

/-- A mark, the text that is left, the nodes that have been named so far, and the handles
that stand for the front part of a tag. -/
structure Place where
  mark : Mark := {}
  rest : List Char
  anchors : List (String × Node) := []
  handles : List (String × String) := []

namespace Place

/-- The column of a place. -/
def column (p : Place) : Nat := p.mark.column

/-- Whether a block may start at a place. -/
def fresh (p : Place) : Bool := p.mark.fresh

/-- Whether the document ends at a place. -/
def atEnd (p : Place) : Bool :=
  p.rest.isEmpty || (p.column == 0 && startsMarker p.rest)

/-- The place after some characters, of which `rest` is left. -/
def upTo (p : Place) (rest : List Char) : Place :=
  { p with
    mark := { p.mark.past (p.rest.take (p.rest.length - rest.length)) with fresh := false }
    rest }

/-- The place after an indicator of one character. -/
def indicator (p : Place) (fresh : Bool) : Place :=
  { p with mark := { p.mark.next with fresh }, rest := p.rest.drop 1 }

/-- Whether an indicator of a block stands at a place. -/
def startsBlock (p : Place) (c : Char) : Bool :=
  match p.rest with
  | d :: rest => c == d && stops rest
  | [] => false

/-- The mark and the text after gaps, comments and line breaks. In a block a tab does not
indent. -/
def skipFrom (flow : Bool) : Bool → Mark → List Char → Mark × List Char
  | _, m, [] => (m, [])
  | comment, m, c :: rest =>
    if isBreak c then
      skipFrom flow false (if flow then m.nextLine else { m.nextLine with fresh := true }) rest
    else if comment || c == '#' then skipFrom flow true m.next rest
    else if c == ' ' || (c == '\t' && (flow || !m.fresh)) then skipFrom flow false m.next rest
    else (m, c :: rest)

/-- The place of the next token. -/
def skip (flow : Bool) (p : Place) : Place :=
  let (mark, rest) := skipFrom flow false p.mark p.rest
  { p with mark, rest }

/-- Whether what was read from a place up to another may be a key: it is on one line and
not too long. -/
def keyUpTo (start stop : Place) : Bool :=
  start.mark.line == stop.mark.line && stop.mark.offset ≤ start.mark.offset + 1024

end Place

end ApiContract.Yaml
