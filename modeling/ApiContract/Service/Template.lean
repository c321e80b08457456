import ApiContract.Contract.Endpoint
import ApiContract.Text.Regex

/-!
# Route templates

A template is a path in which a segment in braces stands for any text without slashes that
is not empty. Empty segments of a template stand for nothing, and a path may end in one
slash more than its template. A template is made a pattern, which an engine matches paths with.

## Main definitions

* `Template.texts` — the segments of a template
* `Template.write`, `Template.compile` — the pattern of a template
* `RoutePattern.captures?` — what the parameters of a template stand for in a path
* `Template.shape` — a template without the names of its parameters
* `Template.precedes` — the order in which templates are tried
-/

namespace ApiContract

/-- The pattern of a template, and the names of the groups in it. -/
structure RoutePattern (E : RegexEngine) where
  pattern : E.Pattern
  names : List String

/-- What the names stand for in a path, if the pattern matches it. The first capture is the whole
path. -/
def RoutePattern.captures? {E : RegexEngine} (r : RoutePattern E) (path : String) :
    Option (List (String × String)) :=
  (E.captures? r.pattern path).map fun captures =>
    (r.names.zip (captures.drop 1)).filterMap fun p => p.2.map fun text => (p.1, text)

namespace Template

/-- The texts between the slashes of a template, without empty ones. -/
def texts (template : String) : List String :=
  (Text.split template '/').filter (· ≠ "")

/-- What is written of a pattern, and the names in it, with a further text of the template. -/
def writeText (E : RegexEngine) (written : String × List String) (text : String) :
    String × List String :=
  match Operation.routeToken? text with
  | some name => (written.1 ++ "/" ++ "([^/]+)", written.2 ++ [name])
  | none => (written.1 ++ "/" ++ E.escape text, written.2)

/-- The pattern of a template as it is written, and the names in it. -/
def write (E : RegexEngine) (template : String) : String × List String :=
  let (start, names) := (texts template).foldl (writeText E) ("^", [])
  if names.isEmpty && start == "^" then (start ++ "/$", names) else (start ++ "/?$", names)

/-- The pattern of a template, unless the engine refuses it. -/
def compile (E : RegexEngine) (template : String) : Except String (RoutePattern E) := do
  let (written, names) := write E template
  return { pattern := ← E.compile written, names }

/-- A template without the names of its parameters. Whatever starts with a brace counts as
one. -/
def shape (template : String) : List String :=
  (texts template).map fun text => if Text.startsWith text "\x7b" then "\x7b\x7d" else text

/-- The number of braces that are opened in a template. -/
def openings (template : String) : Nat :=
  template.toList.count '\x7b'

/-- Whether a template is tried before another: it has fewer braces, or as many and more
bytes. -/
def precedes (a b : String) : Bool :=
  openings a < openings b || (openings a == openings b && b.utf8ByteSize < a.utf8ByteSize)

end Template

end ApiContract
