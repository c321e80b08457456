/-!
# Patterns of texts

Which texts a pattern matches is told by an engine, which reads patterns from texts and may
refuse to. The engine at hand knows as much of the language as the patterns of routes need: it
matches whole texts by items one after the other.

## Main definitions

* `RegexEngine` — what reads patterns and matches texts with them
* `Regex.Item`, `Regex.write` — the items of patterns, and how they are written
* `Regex.read` — the items that a text is written from
* `Regex.match?` — what the groups of items stand for in a text
* `Regex.engine` — the engine at hand
-/

namespace ApiContract

/-- What reads patterns and matches texts with them. The first of the captures of a match is what
the whole pattern has matched, and each group of the pattern has a further one, which may be
missing. -/
structure RegexEngine where
  Pattern : Type
  escape : String → String
  compile : String → Except String Pattern
  captures? : Pattern → String → Option (List (Option String))

namespace Regex

/-- An item of a pattern: a character or a text, each of which stands for itself, a character
that may be missing, or a group of one or more characters other than one. -/
inductive Item where
  | char (c : Char)
  | literal (text : String)
  | maybe (c : Char)
  | others (c : Char)
  deriving DecidableEq, Repr

/-- The characters that stand for something else than themselves. -/
def isMeta (c : Char) : Bool :=
  ['\\', '.', '+', '*', '?', '(', ')', '|', '[', ']', '\x7b', '\x7d', '^', '$', '#', '&', '-',
    '~'].contains c

/-- An item as it is written. -/
def Item.write (escape : String → String) : Item → String
  | .char c => String.singleton c
  | .literal text => escape text
  | .maybe c => String.singleton c ++ "?"
  | .others c => "([^" ++ String.singleton c ++ "]+)"

/-- A pattern of whole texts as it is written. -/
def write (escape : String → String) (items : List Item) : String :=
  "^" ++ String.join (items.map (Item.write escape)) ++ "$"

/-! ### Reading -/

/-- A character as it is written to stand for itself. -/
def escapeChar (c : Char) : List Char :=
  if isMeta c then ['\\', c] else [c]

/-- A text as it is written to stand for itself. -/
def escape (text : String) : String :=
  String.ofList (text.toList.flatMap escapeChar)

/-- The items that characters are written from, up to the end of the pattern. -/
def readItems : List Char → Option (List Item)
  | [] => none
  | ['$'] => some []
  | '(' :: '[' :: '^' :: c :: ']' :: '+' :: ')' :: rest => (readItems rest).map (.others c :: ·)
  | '\\' :: c :: rest => (readItems rest).map (.char c :: ·)
  | c :: rest =>
    if isMeta c then none
    else match rest with
      | '?' :: rest => (readItems rest).map (.maybe c :: ·)
      | rest => (readItems rest).map (.char c :: ·)

/-- The items that a text is written from. -/
def read (written : String) : Except String (List Item) :=
  match written.toList with
  | '^' :: rest => (readItems rest).elim (.error "unsupported pattern") .ok
  | _ => .error "unsupported pattern"

/-! ### Matching -/

/-- A group of characters other than `c`, as long as the text behind it goes on with `next`. What
is taken so far is not empty once a further character is. -/
def matchOthers? (c : Char) (next : List Char → Option (List (List Char))) (taken : List Char) :
    List Char → Option (List (List Char))
  | [] => none
  | d :: rest =>
    if d = c then none
    else
      (matchOthers? c next (taken ++ [d]) rest).or ((next rest).map ((taken ++ [d]) :: ·))

/-- What the groups among items stand for in a text, if the items match all of it. -/
def match? : List Item → List Char → Option (List (List Char))
  | [], [] => some []
  | [], _ :: _ => none
  | .char _ :: _, [] => none
  | .char c :: items, d :: rest => if d = c then match? items rest else none
  | .literal text :: items, rest =>
    if text.toList.isPrefixOf rest then match? items (rest.drop text.toList.length) else none
  | .maybe _ :: items, [] => match? items []
  | .maybe c :: items, d :: rest =>
    (if d = c then match? items rest else none).or (match? items (d :: rest))
  | .others c :: items, rest => matchOthers? c (match? items) [] rest

/-- An engine for whole texts. -/
def engine : RegexEngine where
  Pattern := List Item
  escape := escape
  compile := read
  captures? items text :=
    (match? items text.toList).map fun groups => some text :: groups.map (some ∘ String.ofList)

end Regex

end ApiContract
