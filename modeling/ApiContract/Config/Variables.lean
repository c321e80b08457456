import ApiContract.Files
import ApiContract.Text.Word

/-!
# Variables of the environment

Variables are pairs of names and values in the order in which they were first set. A file
named `.env` in the working directory sets further ones, but none that is set already. It has
one variable a line:

    export NAME = "a value" # a comment

A value in double quotes may go over several lines. Outside single quotes a backslash escapes
and a dollar sign stands before the name of a variable, in braces or not.

## Main definitions

* `Variables` — variables in order
* `Variables.nextEntry` — an entry of a file of variables, of one or more lines
* `Variables.valueOf?`, `Variables.ofEntry` — what an entry says
* `Variables.withFile` — variables with those of the file `.env`
-/

namespace ApiContract

/-- Names and values, in the order in which they were first set. -/
abbrev Variables := List (String × String)

namespace Variables

/-- The value of a variable, if it is set. -/
def get? (vars : Variables) (name : String) : Option String := Members.lookup name vars

/-! ### Entries -/

/-- What stands around the end of a piece of text. -/
inductive Quoting where
  | none
  | blank
  | escape
  | strong
  | strongEscape
  | weak
  | weakEscape
  deriving DecidableEq, Repr

/-- What stands around the end of a piece of text with one more character; a comment starts
at a number sign after a blank. -/
def Quoting.step? (c : Char) : Quoting → Option Quoting
  | .none => some (opened (Text.isBlank c && c ≠ '\n' && c ≠ '\r'))
  | .blank => if c = '#' then Option.none else some (opened false)
  | .escape => some .none
  | .strong => some (if c = '\\' then .strongEscape else if c = '\'' then .none else .strong)
  | .strongEscape => some .strong
  | .weak => some (if c = '\\' then .weakEscape else if c = '"' then .none else .weak)
  | .weakEscape => some .weak
where
  /-- What a character opens outside quotes. -/
  opened (blank : Bool) : Quoting :=
    if blank then .blank
    else if c = '\\' then .escape
    else if c = '"' then .weak
    else if c = '\'' then .strong
    else .none

/-- The characters before a comment, and what stands around their end unless there is a
comment. -/
def scan (q : Quoting) : List Char → List Char × Option Quoting
  | [] => ([], some q)
  | c :: rest =>
    match q.step? c with
    | none => ([], none)
    | some q =>
      let (kept, q) := scan q rest
      (c :: kept, q)

/-- The first line of a text, with its line break, and the rest. -/
def takeLine (cs : List Char) : List Char × List Char :=
  match cs.dropWhile (· ≠ '\n') with
  | [] => (cs, [])
  | _ :: rest => (cs.takeWhile (· ≠ '\n') ++ ['\n'], rest)

/-- A text without the line break at its end. -/
def dropBreak (cs : List Char) : List Char :=
  match cs.reverse with
  | '\n' :: '\r' :: rest => rest.reverse
  | '\n' :: rest => rest.reverse
  | _ => cs

/-- What comes next in a file of variables. -/
inductive Entry where
  | none
  | broken
  | found (text rest : List Char)

/-- The entry at the front of a text, after the lines that belong to it already. -/
def nextEntry : Nat → List Char → Quoting → List Char → Entry
  | 0, _, _, _ => .broken
  | _ + 1, _, q, [] => if q = .none then .none else .broken
  | fuel + 1, before, q, c :: more =>
    let (line, rest) := takeLine (c :: more)
    let whole := before ++ line
    if (whole.dropWhile Text.isBlank).head? == some '#' then .found [] rest
    else match scan q line with
      | (kept, Option.none) => .found (before ++ kept) rest
      | (_, some .none) => .found (dropBreak whole) rest
      | (_, some q) => nextEntry fuel whole q rest

/-! ### Values -/

/-- Where the reading of a value stands. -/
inductive Place where
  | plain
  | strong
  | escape
  /-- In a name after a dollar sign. -/
  | name (read : List Char)
  /-- In a name in braces. -/
  | braced (read : List Char)
  /-- After the blank that ends a value. -/
  | ended
  /-- In the comment after a value. -/
  | comment
  deriving DecidableEq, Repr

/-- A value in the making: its characters in reverse, whether double quotes are open, and
where its reading stands. -/
structure Reading where
  written : List Char := []
  weak : Bool := false
  place : Place := .plain

/-- The value of a variable whose name is given in reverse; one that is not set has none. -/
def value (vars : Variables) (name : List Char) : List Char :=
  ((vars.get? (String.ofList name.reverse)).getD "").toList

/-- The character that an escape stands for. -/
def escape? (c : Char) : Option Char :=
  if ['\\', '\'', '"', '$', ' '].contains c then some c
  else if c = 'n' then some '\n'
  else none

namespace Reading

/-- A value with more characters. -/
def write (r : Reading) (cs : List Char) : Reading :=
  { r with written := cs.reverse ++ r.written }

/-- One more character outside single quotes, escapes and names. -/
def stepPlain (r : Reading) (c : Char) : Reading :=
  if c = '$' then { r with place := .name [] }
  else if c = '\\' then { r with place := .escape }
  else if c = '"' then { r with weak := !r.weak }
  else if r.weak then r.write [c]
  else if c = '\'' then { r with place := .strong }
  else if c = ' ' || c = '\t' then { r with place := .ended }
  else r.write [c]

/-- One more character. -/
def step (vars : Variables) (r : Reading) (c : Char) : Option Reading :=
  match r.place with
  | .plain => some (r.stepPlain c)
  | .strong => some (if c = '\'' then { r with place := .plain } else r.write [c])
  | .escape => (escape? c).map fun e => { r.write [e] with place := .plain }
  | .name read =>
    if Text.isWordChar c then some { r with place := .name (c :: read) }
    else if c = '\x7b' && read.isEmpty then some { r with place := .braced [] }
    else
      let r := r.write (value vars read)
      some (if c = '$' then { r with place := .name [] }
        else { r.write [c] with place := .plain })
  | .braced read =>
    some (if c = '\x7d' then { r.write (value vars read) with place := .plain }
      else { r with place := .braced (c :: read) })
  | .ended =>
    if c = ' ' || c = '\t' then some r
    else if c = '#' then some { r with place := .comment }
    else none
  | .comment => some r

/-- The value when the text ends, unless something is still open. -/
def finish? (vars : Variables) (r : Reading) : Option String :=
  if r.weak then none
  else match r.place with
    | .strong | .braced _ => none
    | .name read => some (String.ofList (r.write (value vars read)).written.reverse)
    | _ => some (String.ofList r.written.reverse)

end Reading

/-- The value that a text stands for. -/
def valueOf? (vars : Variables) (cs : List Char) : Option String :=
  (cs.foldlM (Reading.step vars) {}).bind (Reading.finish? vars)

/-- The name at the front of a text. -/
def readName (cs : List Char) : Option (String × List Char) :=
  match cs with
  | c :: _ =>
    if c.isAlpha || c = '_' then
      let inName (c : Char) : Bool := c.isAlphanum || c = '_' || c = '.'
      some (String.ofList (cs.takeWhile inName), cs.dropWhile inName)
    else none
  | [] => none

/-- The variable that an entry sets: `none` for a malformed one, and nothing for an empty
one. The word `export` may come first. -/
def ofEntry (vars : Variables) (entry : List Char) : Option (Option (String × String)) := do
  let skip (cs : List Char) : List Char := cs.dropWhile Text.isBlank
  let afterEquals? (cs : List Char) : Option (List Char) := Text.dropLeading? ['='] cs
  let cs := Text.trimChars entry
  if cs.isEmpty || cs.head? == some '#' then return none
  let (name, rest) ← readName cs
  let rest := skip rest
  let (name, rest) ← match afterEquals? rest with
    | some rest => some (name, rest)
    | none =>
      if name = "export" then
        (readName rest).bind fun (name, rest) => (afterEquals? (skip rest)).map (name, ·)
      else none
  let rest := skip rest
  if rest.isEmpty || rest.head? == some '#' then return some (name, "")
  return some (name, ← valueOf? vars rest)

/-- Variables with those that a text sets; reading stops at the first malformed entry. -/
def withText : Nat → Variables → List Char → Variables
  | 0, vars, _ => vars
  | fuel + 1, vars, cs =>
    match nextEntry (cs.length + 1) [] .none cs with
    | .none | .broken => vars
    | .found entry rest =>
      match ofEntry vars entry with
      | none => vars
      | some none => withText fuel vars rest
      | some (some (name, value)) =>
        withText fuel (if Members.contains name vars then vars else vars ++ [(name, value)]) rest

/-- Variables with those of the file `.env`, if there is one in the working directory or above. -/
def withFile (vars : Variables) (files : Files) : Variables :=
  match files.nearest? ".env" with
  | none => vars
  | some text =>
    let cs := match text.toList with
      | '\uFEFF' :: rest => rest
      | cs => cs
    withText (cs.length + 1) vars cs

end Variables

end ApiContract
