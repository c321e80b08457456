import ApiContract.Change
import ApiContract.Service.Template

/-!
# The route table

The table holds the bindings of a service, those first that say most about a path: with the
fewest parameters, then with the longest template, then those that were added first. Their
templates are matched by an engine; a binding whose template the engine refuses is not added.

## Main definitions

* `RouteTable` — bindings in the order in which they are tried
* `RouteTable.addWith`, `RouteTable.insertWith` — a further binding, in place or not
* `Resolution`, `RouteTable.resolveWith` — the binding that answers a method and a path
* `RouteTable.insert`, `RouteTable.resolve` — the same, by the engine at hand
-/

namespace ApiContract

/-- What stands against a binding: another one has its method and its shape already, or its
template makes no pattern. -/
inductive RouteConflict where
  | taken (method route : String)
  | invalid (route details : String)
  deriving DecidableEq, Repr

/-- The wording of a conflict. -/
def RouteConflict.message : RouteConflict → String
  | .taken method route => s!"route conflict: {method} {route} is bound twice"
  | .invalid route details => s!"invalid route '{route}': {details}"

/-- What a method and a path lead to: a binding with the values of its parameters, the
methods that the path has instead, or nothing. -/
inductive Resolution where
  | matched (binding : Binding) (params : List (String × String))
  | methodNotAllowed (allowed : List String)
  | notFound

/-- The bindings of a service in the order in which they are tried. What their templates are
compiled to depends on nothing else, and is not kept beside them. -/
structure RouteTable where
  bindings : List Binding := []

namespace RouteTable

/-- The table without bindings. -/
def empty : RouteTable := {}

/-- A binding placed behind all those that it does not precede. -/
def place (b : Binding) : List Binding → List Binding
  | [] => [b]
  | other :: rest =>
    if Template.precedes b.route other.route then b :: other :: rest
    else other :: place b rest

/-- Bindings in the order in which they are tried. Those of which none precedes the other stay in
the order in which they came. -/
def sort (bindings : List Binding) : List Binding :=
  bindings.foldl (fun sorted b => place b sorted) []

/-- Whether two bindings have the same method and the same shape. -/
def clash (a b : Binding) : Bool :=
  a.method == b.method && Template.shape a.route == Template.shape b.route

/-- Adds a binding in place, unless it clashes with one of the table or its template is
refused. -/
def addWith (E : RegexEngine) (b : Binding) : Change RouteTable RouteConflict Unit := do
  let t ← get
  if t.bindings.any (clash b) then throw (.taken b.method b.route)
  else match Template.compile E b.route with
    | .error details => throw (.invalid b.route details)
    | .ok _ => modify fun t => { t with bindings := sort (t.bindings ++ [b]) }

/-- The table with a further binding, if it can be added. -/
def insertWith (E : RegexEngine) (t : RouteTable) (b : Binding) :
    Except RouteConflict RouteTable :=
  (addWith E b).result t

/-- What the template of a binding captures of a path, if it matches. -/
def capturesWith? (E : RegexEngine) (b : Binding) (path : String) :
    Option (List (String × String)) :=
  (Template.compile E b.route).toOption.bind fun r => r.captures? path

/-- What a method and a path lead to among bindings, after some that match the path and have the
methods `allowed`. Of a repeated name of a parameter the last value counts. -/
def scan (E : RegexEngine) (method path : String) (allowed : List String) :
    List Binding → Resolution
  | [] => if allowed.isEmpty then .notFound else .methodNotAllowed allowed
  | b :: rest =>
    match capturesWith? E b path with
    | none => scan E method path allowed rest
    | some captured =>
      if b.method = method then .matched b (Members.putAll captured)
      else
        let allowed := if allowed.contains b.method then allowed else allowed ++ [b.method]
        scan E method path allowed rest

/-- What a method and a path lead to. -/
def resolveWith (E : RegexEngine) (t : RouteTable) (method path : String) : Resolution :=
  scan E method path [] t.bindings

/-- The table with a further binding, if it can be added. -/
def insert (t : RouteTable) (b : Binding) : Except RouteConflict RouteTable :=
  t.insertWith Regex.engine b

/-- The table of bindings, added one after another. -/
def ofBindings (bindings : List Binding) : Except RouteConflict RouteTable :=
  bindings.foldlM insert empty

/-- What a method and a path lead to. -/
def resolve (t : RouteTable) (method path : String) : Resolution :=
  t.resolveWith Regex.engine method path

/-- A table in logs. -/
def describe (t : RouteTable) : String :=
  Text.listed (t.bindings.map fun b => Text.quoted b.describe)

end RouteTable

end ApiContract
