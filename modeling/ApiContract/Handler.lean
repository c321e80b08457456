import ApiContract.Failure
import ApiContract.Http.Response
import ApiContract.Request.Context
import ApiContract.Text.Quoted

/-!
# Handlers

A handler answers one call of an operation. It is given the request, the values of the
declared parameters and the decoded body, and comes to an outcome, to a failure, or to a
panic, after some time. A decorator changes the JSON of a response. Both are known by name
in a handler table, against which the operations of a document are resolved.

## Main definitions

* `Outcome`, `HandlerFailure`, `Run` — what a handler comes to
* `Invocation` — what a handler is given, with the accessors of parameters
* `HandlerTable` — handlers and decorators by name
-/

namespace ApiContract

/-- What a handler has produced. -/
inductive Outcome where
  | instance (i : Instance)
  | reply (r : Response)
  | value (j : Json)
  | nothing

/-- An outcome in messages. -/
def Outcome.describe : Outcome → String
  | .instance i => "model " ++ i.model.name
  | .reply r => "reply " ++ r.status.describe
  | .value (.int _) => "number"
  | .value j => j.kindName
  | .nothing => "nothing"

/-- Why a handler has failed: with a failure for the client, with a value that its model
refuses, or otherwise, in which case there is a message and the messages of its causes. -/
inductive HandlerFailure where
  | failure (f : Failure)
  | model (e : ModelError)
  | other (message : String) (causes : List String)

/-- How a handler ends; a panic may carry no text. -/
inductive Ending where
  | answered (o : Outcome)
  | failed (e : HandlerFailure)
  | panicked (message : Option String)

/-- What a handler does on its way, in milliseconds of the clock by which deadlines are kept: it
works without letting anything else run, or it waits for others. -/
inductive Step where
  | works (ms : Nat)
  | waits (ms : Nat)

/-- One run of a handler: what it does, how it ends, and how many hooks it has run. `elapsed`
are the nanoseconds between the moment in which the context of the request was made and the one
in which the run is found to be slow or not. Another clock tells them, and they count whatever
happens in between, before the handler is called too. -/
structure Run where
  ending : Ending
  steps : List Step := []
  elapsed : Nat := 1
  hooks : Nat := 0

/-- Whether a deadline is reached while one of the steps from `now` on waits. Only then is a
handler cut off: while it works nobody looks at the clock, and it may end after the deadline. -/
def Step.overrun (deadline : Nat) : Nat → List Step → Bool
  | _, [] => false
  | now, .works ms :: steps => overrun deadline (now + ms) steps
  | now, .waits ms :: steps =>
    deadline ≤ now || deadline < now + ms || overrun deadline (now + ms) steps

/-- Whether a run is cut off by a deadline. -/
def Run.overruns (r : Run) (deadline : Nat) : Bool :=
  Step.overrun deadline 0 r.steps

/-- What a handler is given for one call. The values of the declared parameters are in the
order of declaration; a declared parameter may have none. -/
structure Invocation where
  context : RequestContext
  models : ModelSet
  codec : Codec := {}
  body : Option Instance := none
  declared : List String := []
  params : List (String × Value) := []

namespace Invocation

/-- The invocation with a parameter declared. -/
def declare (i : Invocation) (name : String) : Invocation :=
  if i.declared.contains name then i else { i with declared := i.declared ++ [name] }

/-- The invocation with a value of a parameter. -/
def withParam (i : Invocation) (name : String) (v : Value) : Invocation :=
  { i.declare name with params := Members.put name v i.params }

/-- The value of a parameter. -/
def param? (i : Invocation) (name : String) : Option Value :=
  Members.lookup name i.params

/-- The value of a declared parameter as `read` gives it, if the parameter has a value. -/
def typed {α : Type} (i : Invocation) (name expected : String) (read : Value → Option α) :
    Except Failure (Option α) :=
  if !i.declared.contains name then
    .error (.unhandled s!"operation declares no parameter '{name}'")
  else match i.param? name with
    | none => .ok none
    | some v =>
      match read v with
      | some a => .ok (some a)
      | none =>
        .error (.unhandled s!"parameter '{name}' should be {expected}, got {v.typeName}")

/-- The value of a parameter that must have one. -/
def required {α : Type} (name : String) (value : Except Failure (Option α)) :
    Except Failure α := do
  match ← value with
  | some a => return a
  | none => throw (.unhandled s!"optional parameter '{name}' has no value")

/-- The integer that a parameter holds, if it has a value. -/
def integer? (i : Invocation) (name : String) : Except Failure (Option Int64) :=
  i.typed name "integer" Value.asInt64?

/-- The number that a parameter holds, if it has a value. -/
def number? (i : Invocation) (name : String) : Except Failure (Option Float) :=
  i.typed name "number" Value.asFloat?

/-- The truth value that a parameter holds, if it has a value. -/
def bool? (i : Invocation) (name : String) : Except Failure (Option Bool) :=
  i.typed name "boolean" Value.asBool?

/-- The text that a parameter holds, if it has a value. -/
def string? (i : Invocation) (name : String) : Except Failure (Option String) :=
  i.typed name "string" Value.asStr?

/-- The file that a parameter holds, if it has a value. -/
def file? (i : Invocation) (name : String) : Except Failure (Option (List UInt8)) :=
  i.typed name "file" Value.asBytes?

/-- An instance of a model of the API without any field set. -/
def instance? (i : Invocation) (name : String) : Except ModelError Instance :=
  i.models.instance? name

/-- An instance of a model of the API, read from JSON. -/
def decode (i : Invocation) (name : String) (json : Json) : Except ModelError Instance :=
  i.models.decode i.codec name json

end Invocation

/-- A handler. -/
abbrev Handler := Invocation → Run

/-- A decorator. -/
abbrev Decorator := RequestContext → Json → Json

/-- Handlers and decorators by name, in the order of registration. -/
structure HandlerTable where
  handlers : List (String × Handler) := []
  decorators : List (String × Decorator) := []

namespace HandlerTable

/-- The table without entries. -/
def empty : HandlerTable := {}

/-- The handler of a name. -/
def handler? (t : HandlerTable) (name : String) : Option Handler :=
  Members.lookup name t.handlers

/-- The decorator of a name. -/
def decorator? (t : HandlerTable) (name : String) : Option Decorator :=
  Members.lookup name t.decorators

/-- Whether there is a handler of a name. -/
def contains (t : HandlerTable) (name : String) : Bool :=
  (t.handler? name).isSome

/-- The names of the handlers. -/
def names (t : HandlerTable) : List String := Members.keys t.handlers

/-- The table with a handler under a name. -/
def withHandler (t : HandlerTable) (name : String) (h : Handler) : HandlerTable :=
  { t with handlers := Members.put name h t.handlers }

/-- The table with a decorator under a name. -/
def withDecorator (t : HandlerTable) (name : String) (d : Decorator) : HandlerTable :=
  { t with decorators := Members.put name d t.decorators }

/-- The entries of both tables; where they have the same name, those of the second. -/
def merge (t other : HandlerTable) : HandlerTable :=
  { handlers := other.handlers.foldl (fun hs h => Members.put h.1 h.2 hs) t.handlers
    decorators := other.decorators.foldl (fun ds d => Members.put d.1 d.2 ds) t.decorators }

/-- The names in a table, for logs. -/
def describe (t : HandlerTable) : String :=
  "HandlerTable \x7b handlers: " ++ Text.listed (t.names.map Text.quoted) ++ ", decorators: " ++
    Text.listed ((Members.keys t.decorators).map Text.quoted) ++ " \x7d"

end HandlerTable

end ApiContract
