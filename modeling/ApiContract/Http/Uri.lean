import ApiContract.Text.Blank
import ApiContract.Text.Utf8

/-!
# Request targets

The target of a request is a path with an optional query, an asterisk, an authority alone,
or an absolute URI. A fragment is cut off.

## Main definitions

* `Uri` — the parts of a target
* `Uri.read?` — the parts of a text
* `Uri.path`, `Uri.toText` — its path, and the whole as text
-/

namespace ApiContract

/-- The parts of a request target. -/
structure Uri where
  scheme : Option String := none
  authority : String := ""
  rawPath : String := ""
  query : Option String := none
  deriving DecidableEq, Repr

namespace Uri

/-- The target `/`. -/
def root : Uri := { rawPath := "/" }

/-- The path: a target with a scheme and without a path has `/`. -/
def path (u : Uri) : String :=
  if !u.rawPath.isEmpty then u.rawPath
  else if u.scheme.isSome || u.query.isSome then "/"
  else ""

/-- The whole target as text. -/
def toText (u : Uri) : String :=
  ((u.scheme.map (· ++ "://")).getD "") ++ u.authority ++ u.path ++
    ((u.query.map ("?" ++ ·)).getD "")

/-- Whether a character may occur in an authority. -/
def isAuthorityChar (c : Char) : Bool :=
  c.isAlphanum || "!$&'()*+,-.;=_~:[]@".contains c

/-- What has been seen of an authority: colons since the host began, brackets, and whether a
percent sign belongs to the host. -/
structure Seen where
  colons : Nat := 0
  opened : Bool := false
  closed : Bool := false
  percent : Bool := false
  last : Option Char := none

/-- What has been seen after a further character, if it may stand there. -/
def Seen.step (s : Seen) (c : Char) : Option Seen :=
  let s := { s with last := some c }
  if c = ':' then if 8 ≤ s.colons then none else some { s with colons := s.colons + 1 }
  else if c = '[' then if s.percent || s.opened then none else some { s with opened := true }
  else if c = ']' then
    if !s.opened || s.closed then none
    else some { s with closed := true, colons := 0, percent := false }
  else if c = '@' then some { s with colons := 0, percent := false }
  else if c = '%' then some { s with percent := true }
  else if isAuthorityChar c then some s
  else none

/-- Whether a text is an authority: brackets pair, at most one colon precedes a port, and
something follows an at sign. -/
def isAuthority (s : String) : Bool :=
  match s.toList.foldlM Seen.step {} with
  | none => false
  | some seen => seen.opened == seen.closed && seen.colons ≤ 1 && !seen.percent &&
      seen.last ≠ some '@'

/-- Whether a character may occur in a path. -/
def isPathChar (c : Char) : Bool :=
  let n := c.toNat
  n == 0x21 || n == 0x22 || (0x24 ≤ n && n ≤ 0x3B) || n == 0x3D || (0x40 ≤ n && n ≤ 0x5F) ||
    (0x61 ≤ n && n ≤ 0x7E) || 0x7F ≤ n

/-- Whether a character may occur in a query. -/
def isQueryChar (c : Char) : Bool :=
  let n := c.toNat
  n == 0x21 || (0x24 ≤ n && n ≤ 0x3B) || n == 0x3D || 0x3F ≤ n

/-- The path and the query of a text, up to its fragment. -/
def readPath? (cs : List Char) : Option (String × Option String) :=
  let cs := cs.takeWhile (· ≠ '#')
  let path := cs.takeWhile (· ≠ '?')
  let query := (cs.dropWhile (· ≠ '?')).drop 1
  if !path.all isPathChar || !query.all isQueryChar then none
  else some (String.ofList path,
    if path.length = cs.length then none else some (String.ofList query))

/-- Whether a character may occur in a scheme. -/
def isSchemeChar (c : Char) : Bool :=
  c.isAlphanum || c == '+' || c == '-' || c == '.'

/-- The scheme of a text and what follows it; a scheme has at most 64 characters. -/
def readScheme? (cs : List Char) : Option (Option String × List Char) :=
  let scheme := cs.takeWhile isSchemeChar
  match cs.dropWhile isSchemeChar with
  | ':' :: '/' :: '/' :: rest =>
    let name := String.ofList scheme
    if Text.eqIgnoreCase name "http" || Text.eqIgnoreCase name "https" then
      some (some (Text.lowerAscii name), rest)
    else if cs.length ≤ 3 then some (none, cs)
    else if 64 < scheme.length then none
    else some (some name, rest)
  | _ => some (none, cs)

/-- The parts of a target that does not start with a slash. -/
def readAbsolute? (cs : List Char) : Option Uri := do
  let (scheme, rest) ← readScheme? cs
  let authority := String.ofList (rest.takeWhile fun c => c ≠ '/' && c ≠ '?' && c ≠ '#')
  let rest := rest.drop authority.length
  if !isAuthority authority then none
  else match scheme with
    | none => if rest.isEmpty then some { authority } else none
    | some scheme =>
      if authority.isEmpty then none
      else
        let (rawPath, query) ← readPath? rest
        return { scheme := some scheme, authority, rawPath, query }

/-- The largest number of bytes of a target. -/
def maxLength : Nat := 65534

/-- The parts of a text. -/
def read? (s : String) : Option Uri :=
  if maxLength < (Utf8.encode s).length then none
  else match s.toList with
    | [] => none
    | ['*'] => some { rawPath := "*" }
    | '/' :: rest =>
      (readPath? ('/' :: rest)).map fun (rawPath, query) => { rawPath, query }
    | cs => readAbsolute? cs

end Uri

end ApiContract
