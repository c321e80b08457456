import ApiContract.Exchange.Value
import ApiContract.Service.Expect
import ApiContract.Service.Settings

/-!
# Views

What other programs read of models, operations, failures and settings.

## Main definitions

* `Model.view`, `Contract.view`, `Binding.view` — a contract and its parts
* `Failure.view` — a failure
* `ServerSettings.view` — settings of a server
-/

namespace ApiContract

/-- What is read of a model. -/
def Model.view (m : Model) : Json :=
  .obj [("model", m.toJson), ("field_names", .ofTexts m.fieldNames),
    ("base_fields", .ofTexts (m.baseFields.map (·.name))), ("nullable", .ofTexts m.nullableNames)]

/-- What is read of an operation. -/
def Binding.view (b : Binding) : Json :=
  .obj [("endpoint", .str b.endpoint.describe), ("params", .arr (b.params.map ParamSpec.toJson)),
    ("body_model", .ofText? b.bodyModel), ("handler", .str b.handlerName),
    ("decorator", .ofText? b.decoratorName), ("decorated", .bool b.decorator.isSome),
    ("results", .ofTexts b.results), ("produces", .str b.produces), ("form", .bool b.takesForm),
    ("files", .ofTexts ((b.params.filter ParamSpec.isFile).map (·.name)))]

/-- What is read of a contract. -/
def Contract.view (c : Contract) : Json :=
  let d := c.document
  .obj [("name", .str c.api), ("version", .ofText? d.apiVersion), ("title", .ofText? d.title),
    ("base_path", .str d.base), ("models", .ofTexts d.modelNames),
    ("parents", .arr (d.definitions.map fun m => .ofText? m.2.parentName)),
    ("operations", .arr (d.routes.map fun r =>
      .arr [.str r.label, .ofText? r.operation.handlerName]))]

/-- What is read of a failure. Its envelope is as it was, and its identifier stays when it is
given one twice. -/
def Failure.view (f : Failure) : Json :=
  let first := f.ensureId (Uuid.generated 0)
  let second := first.ensureId (Uuid.generated 1)
  .obj [("code", .str f.code), ("kind", .str f.kind.code), ("status", .int f.status.code),
    ("display", .str f.message), ("fatal", .bool f.isFatal), ("report", .bool f.shouldReport),
    ("user_message", .ofText? f.userMessage), ("caught", .ofText? f.caught),
    ("trace", .ofText? f.trace), ("envelope", .str f.toEnvelope.toJson.compact),
    ("had_id", .bool f.id.isSome), ("id_stable", .bool (first.id == second.id))]

/-- What is read of a caller. -/
def Caller.view (c : Caller) : Json :=
  .obj [("ip", .ofText? c.ip), ("forwarded_ip", .ofText? c.forwarded),
    ("user_agent", .ofText? c.agent), ("user_id", .ofText? c.user)]

/-- What is read of the settings of a server. -/
def ServerSettings.view (s : ServerSettings) : Json :=
  .obj [("http_addr", .str s.address),
    ("socket_addr", .ofText? (s.socketAddress?.map SocketAddress.toText)),
    ("request_timeout_ms", .int s.requestTimeout), ("body_timeout_ms", .int s.bodyTimeout),
    ("shutdown_timeout_ms", .int s.shutdownTimeout), ("max_body_bytes", .int s.maxBodyBytes),
    ("slow_call_ms", .ofNat? s.slowCall), ("max_fields", .int s.multipart.maxFields),
    ("max_field_size", .int s.multipart.maxFieldSize)]

end ApiContract
