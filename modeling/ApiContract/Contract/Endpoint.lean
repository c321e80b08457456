import ApiContract.Contract.Models
import ApiContract.Contract.Param
import ApiContract.Handler

/-!
# Endpoints

Every operation of a document becomes a binding: its route, its parameters, the models of
its body and of its results, and the handler that answers it. An operation outside of the
supported subset is refused with the first reason found.

## Main definitions

* `Binding` — an operation ready to be called
* `HandlerPolicy` — what becomes of names without handler
* `compileEndpoints` — the bindings of a document
-/

namespace ApiContract

/-- An operation ready to be called. -/
structure Binding where
  api : String
  method : String
  route : String
  params : List ParamSpec
  bodyModel : Option String
  handlerName : String
  handler : Handler
  decoratorName : Option String
  decorator : Option Decorator
  results : List String
  produces : String

namespace Binding

/-- Which operation a binding is of. -/
def endpoint (b : Binding) : EndpointId :=
  { api := b.api, method := b.method, path := b.route, handler := b.handlerName }

/-- Whether the operation reads form fields. -/
def takesForm (b : Binding) : Bool :=
  b.params.any fun p => p.location = .form

/-- A binding in listings of routes. -/
def describe (b : Binding) : String := b.method ++ " " ++ b.route

end Binding

/-- What becomes of a name without handler: the document is refused, or a stub is bound that
always fails. -/
inductive HandlerPolicy where
  | require
  | stub
  deriving DecidableEq, Repr

/-- The only media type that operations produce. -/
def jsonMediaType : String := "application/json"

/-- The refusal of an operation. -/
def refuse {α : Type} (label reason : String) : Except ContractError α :=
  .error (.invalidOperation label reason)

namespace Parameter

/-- The type of a parameter that is no part of a path: one of its values, else the scalar
that its format or its type names. -/
def scalarType (p : Parameter) (known : List String) (context : String) :
    Except ContractError FieldType :=
  match p.values, p.format.orElse fun _ => p.type with
  | some values, _ => .ok (.oneOf (values.map Yaml.Value.text))
  | none, none => .error (.unknownType noToken context)
  | none, some token => do
    let type ← FieldType.ofToken token known context
    if type.isScalar then return type else throw (.unknownType token context)

/-- The type of a parameter in a path: a text, unless its format or its type names an
integer or a number. -/
def pathType (p : Parameter) (name label context : String) : Except ContractError FieldType := do
  let token := ((p.format.orElse fun _ => p.type).getD "string")
  let type ← FieldType.ofToken token [] context
  match type with
  | .string | .integer | .number => return type
  | _ => refuse label s!"path parameter '{name}' must be a string, integer or number"

/-- The type of a parameter at its location. -/
def typeAt (p : Parameter) (location : ParamLocation) (known : List String)
    (name label : String) : Except ContractError FieldType :=
  let context := s!"{label} parameter '{name}'"
  match location with
  | .path => p.pathType name label context
  | .form => if p.type = some "file" then .ok .bytes else p.scalarType known context
  | _ => p.scalarType known context

/-- What is declared of a parameter outside of the body. A parameter in the path is always
required. -/
def spec (p : Parameter) (location : ParamLocation) (known : List String) (label : String) :
    Except ContractError ParamSpec := do
  let some name := p.name | refuse label s!"{p.location} parameter without a name"
  let type ← p.typeAt location known name label
  return { name, location, type, required := location = .path || p.required,
           default := p.default, description := p.description }

end Parameter

namespace Operation

/-- The parameters of an operation and the model of its body, read one after another. -/
def addParameter (known : List String) (label : String)
    (read : List ParamSpec × Option String) (p : Parameter) :
    Except ContractError (List ParamSpec × Option String) := do
  match ParamLocation.ofName? p.location with
  | none => refuse label s!"unsupported parameter location '{p.location}'"
  | some .body =>
    if read.2.isSome then refuse label "more than one body parameter"
    else
      let some reference := p.schema | refuse label "body parameter without schema.$ref"
      return (read.1, some (← resolveReference reference known label))
  | some location => return (read.1 ++ [← p.spec location known label], read.2)

/-- The parameters of an operation and the model of its body. -/
def signature (o : Operation) (known : List String) (label : String) :
    Except ContractError (List ParamSpec × Option String) := do
  let (params, body) ← o.parameters.foldlM (addParameter known label) ([], none)
  if body.isSome && params.any (fun p => p.location = .form) then
    refuse label "cannot mix a body parameter with formData"
  else return (params, body)

/-- The name of a segment of a route that stands for a parameter. -/
def routeToken? (segment : String) : Option String :=
  (Text.stripStart? "\x7b" segment).bind (Text.stripEnd? "\x7d")

/-- The names of the parameters that a route stands for, in order. -/
def routeTokens (path : String) : List String :=
  (Text.split path '/').filterMap routeToken?

/-- Checks that the parameters in the route are those declared for the path. -/
def checkRoute (path label : String) (params : List ParamSpec) : Except ContractError Unit := do
  let tokens := routeTokens path
  let declared := (params.filter fun p => p.location = .path).map (·.name)
  match tokens.find? fun t => !declared.contains t with
  | some t => refuse label ("route token '\x7b" ++ t ++ "\x7d' has no path parameter")
  | none =>
    match declared.find? fun n => !tokens.contains n with
    | some n => refuse label s!"path parameter '{n}' is not in the route"
    | none => return ()

/-- The media type that an operation produces: the first that it lists itself, or else the
first that its document lists. -/
def mediaType (o : Operation) (d : Document) (label : String) : Except ContractError String :=
  let produces := ((o.produces.orElse fun _ => d.produces).bind List.head?).getD jsonMediaType
  if produces = jsonMediaType then .ok produces
  else refuse label s!"produces '{produces}', only {jsonMediaType} is supported"

/-- The models that an operation may answer with, each once. -/
def resultModels (o : Operation) (known : List String) (label : String) :
    Except ContractError (List String) := do
  if o.responses.isEmpty then refuse label "no responses declared"
  else
    let models ← o.responses.mapM fun (status, schema) =>
      match schema with
      | some reference => resolveReference reference known label
      | none => refuse label s!"response '{status}' has no schema.$ref"
    return Members.distinct models

end Operation

namespace HandlerPolicy

/-- The handler that stands in for a missing one. -/
def stubHandler (name : String) : Handler := fun _ =>
  { ending := .failed (.failure (.unhandled s!"no handler bound for '{name}'")) }

/-- The handler of a name, or what the policy puts in its place. -/
def handler (policy : HandlerPolicy) (t : HandlerTable) (name label : String) :
    Except ContractError Handler :=
  match t.handler? name, policy with
  | some h, _ => .ok h
  | none, .require => .error (.unresolvedHandler label name)
  | none, .stub => .ok (stubHandler name)

/-- The decorator of a name, or what the policy puts in its place. -/
def decorator (policy : HandlerPolicy) (t : HandlerTable) (name label : String) :
    Except ContractError Decorator :=
  match t.decorator? name, policy with
  | some d, _ => .ok d
  | none, .require => .error (.unresolvedHandler label name)
  | none, .stub => .ok fun _ body => body

end HandlerPolicy

/-- An operation with its method and its path. -/
structure Route where
  method : String
  path : String
  operation : Operation

/-- An operation in messages. -/
def Route.label (r : Route) : String := r.method ++ " " ++ r.path

/-- The operations of a document in order. -/
def Document.routes (d : Document) : List Route :=
  d.paths.flatMap fun (path, operations) =>
    operations.map fun (method, operation) => { method, path, operation }

/-- What all routes of a document start with, without slashes at its end. -/
def Document.base (d : Document) : String :=
  (d.basePath.map (Text.dropTrailing '/')).getD ""

/-- The binding of an operation. -/
def Route.bind (r : Route) (api : String) (d : Document) (t : HandlerTable)
    (policy : HandlerPolicy) : Except ContractError Binding := do
  let known := d.modelNames
  let label := r.label
  let (params, bodyModel) ← r.operation.signature known label
  Operation.checkRoute r.path label params
  let produces ← r.operation.mediaType d label
  let results ← r.operation.resultModels known label
  let some handlerName := r.operation.handlerName
    | refuse label "no operationId or x-bind-server"
  let handler ← policy.handler t handlerName label
  let decorator ← r.operation.decorateServer.mapM fun name => policy.decorator t name label
  return { api, method := r.method, route := d.base ++ r.path, params, bodyModel, handlerName,
           handler, decoratorName := r.operation.decorateServer, decorator, results, produces }

/-- The bindings of a document. -/
def compileEndpoints (api : String) (d : Document) (t : HandlerTable) (policy : HandlerPolicy) :
    Except ContractError (List Binding) :=
  d.routes.mapM fun r => r.bind api d t policy

end ApiContract
