import ApiContract.Yaml.Scalar

/-!
# Reading YAML text

Indentation directs the reading of blocks: a node belongs to an entry as long as it stands
deeper than the entry, and a sequence that is the value of a key may stand at the column of
the key. Flow collections are enclosed in brackets or braces. A name given with `&` stands
for its node wherever `*` and the name follow.

## Main definitions

* `Yaml.read` — the root of a text that holds one document
-/

namespace ApiContract.Yaml

/-- The properties of a node: its name and its tag. -/
structure Properties where
  anchor : Option String := none
  tag : Option String := none

namespace Properties

/-- Whether there are none. -/
def isEmpty (p : Properties) : Bool := p.anchor.isNone && p.tag.isNone

/-- A node with its tag, and a place that knows it by its name. -/
def apply (ps : Properties) (n : Node) (p : Place) : Node × Place :=
  let n := n.withTag ps.tag
  match ps.anchor with
  | none => (n, p)
  | some name => (n, { p with anchors := (name, n) :: p.anchors })

end Properties

/-- Whether a character may occur in the name of a node. -/
def isNameChar (c : Char) : Bool :=
  c.isAlphanum || c == '-' || c == '_'

/-- The name after `&` or `*`. -/
def readName (p : Place) : Option (String × Place) :=
  let name := (p.rest.drop 1).takeWhile isNameChar
  let rest := (p.rest.drop 1).dropWhile isNameChar
  let ends := match rest with
    | [] => true
    | c :: _ => stops rest || "?:,]\x7d%@\x60".toList.contains c
  if name.isEmpty || !ends then none else some (String.ofList name, p.upTo rest)

/-- Whether a character may occur in a tag. -/
def isTagChar (c : Char) : Bool :=
  c.isAlphanum || "-_;/?:@&=+$.%!~*'()".toList.contains c

/-- The tag of the standard vocabulary with a name. -/
def standardTag (name : String) : String := "tag:yaml.org,2002:" ++ name

/-- The front part of a tag that a handle stands for. -/
def handle? (p : Place) (handle : String) : Option String :=
  (p.handles.lookup handle).orElse fun _ =>
    if handle = "!!" then some (standardTag "") else none

/-- The tag that starts at `!`, written out. -/
def readTag (p : Place) : Option (String × Place) :=
  match p.rest with
  | '!' :: '<' :: rest =>
    match rest.dropWhile fun c => isTagChar c || c == ',' || c == '[' || c == ']' with
    | '>' :: after =>
      let uri := rest.take (rest.length - after.length - 1)
      if uri.isEmpty || !stops after then none else some (String.ofList uri, p.upTo after)
    | _ => none
  | _ :: rest =>
    let written := rest.takeWhile isTagChar
    let after := rest.dropWhile isTagChar
    let ends := stops after || after.head? == some ','
    if !ends then none
    else
      let stop := p.upTo after
      match written.dropWhile isNameChar with
      | '!' :: suffix =>
        let handle := String.ofList ('!' :: written.takeWhile isNameChar ++ ['!'])
        if suffix.isEmpty then none
        else (handle? p handle).map fun front => (front ++ String.ofList suffix, stop)
      | _ => some (String.ofList ('!' :: written), stop)
  | [] => none

/-- The properties that stand on one line, at most one of each kind. -/
def readProperties (flow : Bool) : Nat → Properties → Place → Option (Properties × Place)
  | 0, ps, p => some (ps, p)
  | fuel + 1, ps, p =>
    let again (ps : Properties) (q : Place) :=
      let q := q.skip flow
      if q.mark.line = p.mark.line then readProperties flow fuel ps q else some (ps, q)
    match p.rest with
    | '&' :: _ =>
      if ps.anchor.isSome then none
      else (readName p).bind fun (name, q) => again { ps with anchor := some name } q
    | '!' :: _ =>
      if ps.tag.isSome then none
      else (readTag p).bind fun (tag, q) => again { ps with tag := some tag } q
    | _ => some (ps, p)

/-- The node that a name stands for. -/
def readAlias (p : Place) : Option (Node × Place) := do
  let (name, q) ← readName p
  let node ← p.anchors.lookup name
  return (node, q)

/-- Whether a character separates the items of a flow collection or closes one. -/
def endsItem (close c : Char) : Bool := c == ',' || c == close

mutual

/-- A node of a flow collection. -/
def readFlow : Nat → Place → Option (Node × Place)
  | 0, _ => none
  | fuel + 1, p => do
    if p.atEnd then none
    else
      let (ps, q) ← readProperties true 2 {} p
      match q.rest with
      | '*' :: _ => if ps.isEmpty then readAlias q else none
      | _ =>
        let (node, r) ← readFlowContent fuel (!ps.isEmpty) q
        return ps.apply node r

/-- The content of a node of a flow collection; there may be none after properties. -/
def readFlowContent : Nat → Bool → Place → Option (Node × Place)
  | 0, _, _ => none
  | fuel + 1, mayBeEmpty, p =>
    match p.rest with
    | [] => none
    | c :: _ =>
      if c == '[' then readFlowItems fuel [] true ((p.indicator true).skip true)
      else if c == '\x7b' then readFlowPairs fuel [] true ((p.indicator true).skip true)
      else if c == '"' then (readDouble p).map fun (s, q) => (.scalar none false s, q)
      else if c == '\'' then (readSingle p).map fun (s, q) => (.scalar none false s, q)
      else if mayBeEmpty && (c == ',' || c == ']' || c == '\x7d' || c == ':') then
        some (.empty, p)
      else (readPlain true 0 p).map fun (s, q) => (.scalar none true s, q)

/-- The node after a colon, if there is one before the next comma or the closing
character. -/
def readFlowValue (close : Char) : Nat → Place → Option (Node × Place)
  | 0, _ => none
  | fuel + 1, p =>
    match p.rest with
    | ':' :: _ =>
      let q := (p.indicator false).skip true
      if (q.rest.head?.map (endsItem close)).getD true then some (.empty, q) else readFlow fuel q
    | _ => some (.empty, p)

/-- A key after a question mark, and its value. -/
def readFlowEntry (close : Char) : Nat → Place → Option ((Node × Node) × Place)
  | 0, _ => none
  | fuel + 1, p => do
    let q := (p.indicator false).skip true
    let (key, q) ←
      if (q.rest.head?.map fun c => endsItem close c || c == ':').getD true then
        some (Node.empty, q)
      else readFlow fuel q
    let (value, q) ← readFlowValue close fuel (q.skip true)
    return ((key, value), q)

/-- The items of a flow sequence up to its bracket. -/
def readFlowItems : Nat → List Node → Bool → Place → Option (Node × Place)
  | 0, _, _, _ => none
  | fuel + 1, items, first, p =>
    let item (p : Place) : Option (Node × Place) := do
      match p.rest with
      | [] => none
      | ']' :: _ => return (.sequence none items.reverse, p.indicator false)
      | '?' :: _ =>
        let (pair, q) ← readFlowEntry ']' fuel p
        readFlowItems fuel (.mapping none [pair] :: items) false (q.skip true)
      | _ =>
        let (node, q) ← readFlow fuel p
        let r := q.skip true
        if r.rest.head? == some ':' then
          if p.keyUpTo r then
            let (value, q) ← readFlowValue ']' fuel r
            readFlowItems fuel (.mapping none [(node, value)] :: items) false (q.skip true)
          else none
        else readFlowItems fuel (node :: items) false r
    if first then item p
    else match p.rest with
      | ',' :: _ => item ((p.indicator true).skip true)
      | ']' :: _ => item p
      | _ => none

/-- The pairs of a flow mapping up to its brace. -/
def readFlowPairs : Nat → List (Node × Node) → Bool → Place → Option (Node × Place)
  | 0, _, _, _ => none
  | fuel + 1, pairs, first, p =>
    let pair (p : Place) : Option (Node × Place) := do
      match p.rest with
      | [] => none
      | '\x7d' :: _ => return (.mapping none pairs.reverse, p.indicator false)
      | '?' :: _ =>
        let (pair, q) ← readFlowEntry '\x7d' fuel p
        readFlowPairs fuel (pair :: pairs) false (q.skip true)
      | _ =>
        let (key, q) ← readFlow fuel p
        let r := q.skip true
        if r.rest.head? == some ':' && !p.keyUpTo r then none
        else
          let (value, q) ← readFlowValue '\x7d' fuel r
          readFlowPairs fuel ((key, value) :: pairs) false (q.skip true)
    if first then pair p
    else match p.rest with
      | ',' :: _ => pair ((p.indicator true).skip true)
      | '\x7d' :: _ => pair p
      | _ => none

end

/-- A node that may be a key: a name's node, a scalar or a flow collection. `indent` is the
column that further lines of a plain scalar exceed. -/
def readInline (fuel : Nat) (indent : Int) (ps : Properties) (p : Place) :
    Option (Node × Place) := do
  match p.rest with
  | '*' :: _ => if ps.isEmpty then readAlias p else none
  | c :: _ =>
    let (node, q) ←
      if c == '[' || c == '\x7b' || c == '"' || c == '\'' then readFlowContent fuel false p
      else (readPlain false indent p).map fun (s, q) => (Node.scalar none true s, q)
    return ps.apply node q
  | [] => none

/-- The place of a colon that makes what was read from `start` on a key. -/
def colonAfter? (start stop : Place) : Option Place :=
  let r := stop.skip false
  if r.startsBlock ':' && start.keyUpTo r then some r else none

mutual

/-- The node at a place, which belongs to an entry at column `indent`; nothing if the place
does not stand deeper. A sequence may stand at that column if `level` says so. -/
def readNode : Nat → Int → Bool → Place → Option (Node × Place)
  | 0, _, _, _ => none
  | fuel + 1, indent, level, p =>
    if p.atEnd then some (.empty, p)
    else if (p.column : Int) ≤ indent then
      if level && (p.column : Int) = indent && p.fresh && p.startsBlock '-' then
        readItems fuel p.column true [] p
      else some (.empty, p)
    else do
      let (ps, q) ← readProperties false 2 {} p
      if q.mark.line ≠ p.mark.line then
        let (node, r) ← readNode fuel indent level q
        return ps.apply node r
      else if q.atEnd then return ps.apply .empty q
      else if q.startsBlock '-' then
        if q.fresh then readItems fuel q.column false [] q else none
      else if q.startsBlock '?' then
        if q.fresh then readPairs fuel q.column [] q else none
      else match q.rest with
        | '|' :: _ =>
          let (s, r) ← readBlock true indent q
          return ps.apply (.scalar none false s) r
        | '>' :: _ =>
          let (s, r) ← readBlock false indent q
          return ps.apply (.scalar none false s) r
        | _ =>
          let (node, r) ← readInline fuel indent ps q
          match if p.fresh then colonAfter? p r else none with
          | none => return (node, r)
          | some r =>
            let (value, r) ← readNode fuel p.column true ((r.indicator false).skip false)
            readPairs fuel p.column [(node, value)] (r.skip false)

/-- The items of a sequence whose dashes stand at a column. With `level` set the column is
that of a mapping, whose next key ends the sequence. -/
def readItems : Nat → Nat → Bool → List Node → Place → Option (Node × Place)
  | 0, _, _, _, _ => none
  | fuel + 1, column, level, items, p =>
    if p.atEnd || p.column < column then some (.sequence none items.reverse, p)
    else if p.column = column && p.fresh && p.startsBlock '-' then do
      let (item, q) ← readNode fuel column false ((p.indicator true).skip false)
      readItems fuel column level (item :: items) (q.skip false)
    else if level && p.column = column then some (.sequence none items.reverse, p)
    else none

/-- The pairs of a mapping whose keys stand at a column. -/
def readPairs : Nat → Nat → List (Node × Node) → Place → Option (Node × Place)
  | 0, _, _, _ => none
  | fuel + 1, column, pairs, p =>
    if p.atEnd || p.column < column then some (.mapping none pairs.reverse, p)
    else if p.column ≠ column || !p.fresh then none
    else if p.startsBlock '?' then do
      let (key, q) ← readNode fuel column true ((p.indicator true).skip false)
      let q := q.skip false
      if !q.atEnd && q.column = column && q.fresh && q.startsBlock ':' then
        let (value, r) ← readNode fuel column true ((q.indicator true).skip false)
        readPairs fuel column ((key, value) :: pairs) (r.skip false)
      else readPairs fuel column ((key, .empty) :: pairs) q
    else do
      let (ps, q) ← readProperties false 2 {} p
      if q.mark.line ≠ p.mark.line then none
      else
        let (key, r) ← readInline fuel column ps q
        let colon ← colonAfter? p r
        let (value, r) ← readNode fuel column true ((colon.indicator false).skip false)
        readPairs fuel column ((key, value) :: pairs) (r.skip false)

end

/-! ### Documents -/

/-- A directive: the version, which is 1.1 or 1.2, or a handle for tags. -/
def readDirective (p : Place) : Option Place :=
  let line := p.rest.takeWhile fun c => !isBreak c
  let words := ((line.splitBy fun a b => isGap a == isGap b).filter fun w =>
    !w.all isGap).takeWhile fun w => w.head? != some '#'
  let q := (p.upTo (p.rest.drop line.length)).skip false
  match words.map String.ofList with
  | ["%YAML", "1.1"] => some q
  | ["%YAML", "1.2"] => some q
  | ["%TAG", handle, front] => some { q with handles := (handle, front) :: q.handles }
  | _ => none

/-- The place after the directives, and whether there were any. -/
def readDirectives : Nat → Bool → Place → Option (Bool × Place)
  | 0, _, _ => none
  | fuel + 1, directed, p =>
    match p.rest with
    | '%' :: _ =>
      if p.column = 0 then (readDirective p).bind (readDirectives fuel true) else some (directed, p)
    | _ => some (directed, p)

/-- Whether a marker stands at a place. -/
def atMarker (c : Char) (p : Place) : Bool :=
  p.column == 0 && startsMarker p.rest && p.rest.head? == some c

/-- The place after the markers that close a document. -/
def skipClosing : Nat → Place → Place
  | 0, p => p
  | fuel + 1, p =>
    if atMarker '.' p then skipClosing fuel ((p.upTo (p.rest.drop 3)).skip false) else p

/-- The root of a text that holds one document; an empty text holds an empty one. -/
def read (text : String) : Option Node := do
  let cs ← lines? text
  let fuel := 4 * cs.length + 16
  let (directed, p) ← readDirectives fuel false (Place.skip false { rest := cs })
  let p ←
    if atMarker '-' p then some ((p.upTo (p.rest.drop 3)).skip false)
    else if directed || atMarker '.' p then none
    else some p
  let (root, p) ← readNode fuel (-1) false p
  let p := p.skip false
  let p := skipClosing fuel p
  if p.rest.isEmpty then some root else none

end ApiContract.Yaml
