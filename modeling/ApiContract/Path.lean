import ApiContract.Text.Blank

/-!
# Paths

A path is a text of names with slashes between them. Slashes that follow one another count
as one, and a dot as a name is passed over unless it comes first.

## Main definitions

* `Path.names` — the names of a path
* `Path.fileName?`, `Path.stem?`, `Path.extension?` — the last name and its parts
* `Path.parent?`, `Path.join`, `Path.withFileName` — building paths from others
-/

namespace ApiContract.Path

/-- Whether a path starts at the root. -/
def isAbsolute (path : String) : Bool :=
  Text.startsWith path "/"

/-- The names of a path in order, without a dot that comes first. -/
def names (path : String) : List String :=
  (Text.split path '/').filter fun name => name ≠ "" && name ≠ "."

/-- The last name of a path, unless it leads upwards. -/
def fileName? (path : String) : Option String :=
  (names path).getLast?.filter (· ≠ "..")

/-- The parts of a name before and after its last dot; a name without a dot, or with only
one that comes first, is one part. -/
def splitName (name : String) : String × Option String :=
  match (Text.split name '.').reverse with
  | last :: before :: more =>
    let stem := Text.join "." (before :: more).reverse
    if stem.isEmpty then (name, none) else (stem, some last)
  | _ => (name, none)

/-- The last name of a path without its extension. -/
def stem? (path : String) : Option String :=
  (fileName? path).map fun name => (splitName name).1

/-- What follows the last dot in the last name of a path. -/
def extension? (path : String) : Option String :=
  (fileName? path).bind fun name => (splitName name).2

/-- The characters of a path, from its end, without slashes and dots that stand for nothing
there. -/
def dropIdle : List Char → List Char
  | '/' :: rest => if rest.isEmpty then ['/'] else dropIdle rest
  | '.' :: '/' :: rest => dropIdle ('/' :: rest)
  | cs => cs

/-- A path without slashes and dots at its end that stand for nothing there. -/
def trimmed (path : String) : String :=
  String.ofList (dropIdle path.toList.reverse).reverse

/-- The path without its last name, if it has one. -/
def parent? (path : String) : Option String :=
  let idle := dropIdle path.toList.reverse
  if idle.isEmpty || idle == ['/'] then none
  else
    let before := dropIdle (idle.dropWhile (· ≠ '/'))
    some (String.ofList before.reverse)

/-- A path below another; an absolute path stands for itself. -/
def join (base path : String) : String :=
  if isAbsolute path || base.isEmpty then path
  else if Text.endsWith base "/" then base ++ path
  else base ++ "/" ++ path

/-- A path with another last name. -/
def withFileName (path name : String) : String :=
  match fileName? path with
  | some _ => join ((parent? path).getD "") name
  | none => join path name

end ApiContract.Path
