import ApiContract.Failure
import ApiContract.Request.Context
import ApiContract.Text.Quoted

/-!
# Crash reports

Fatal failures, failures that are marked for it, and calls that took too long are reported.
A report says what the caller got, who called, and what was caught; the last is never sent
to clients.

## Main definitions

* `CrashReport` — one report
* `CrashDesk` — whose service and port reports name, and whether they are sent
* `CrashDesk.ofFailure`, `CrashDesk.ofSlowCall` — the reports of failures and slow calls
-/

namespace ApiContract

/-- One report. Its response is what the caller got, its endpoint the operation or, when
routing failed, what was asked for. -/
structure CrashReport where
  title : String
  isFatal : Bool
  errorId : Option String
  status : Nat
  code : String
  description : String
  userMessage : Option String
  callId : Option String
  callPath : Option String
  caller : Caller
  service : String
  api : Option String
  port : Nat
  endpointId : String
  url : String
  path : String
  method : String
  caught : Option String
  trace : Option String
  deriving DecidableEq, Repr

/-- The service that reports are about, its port, and whether reports are sent. -/
structure CrashDesk where
  service : String := "ptolemy"
  port : Nat := 0
  enabled : Bool := true
  deriving DecidableEq, Repr

namespace CrashDesk

/-- A report of a failure under a title. -/
def report (d : CrashDesk) (ctx : RequestContext) (title : String) (f : Failure) : CrashReport :=
  { title
    isFatal := f.isFatal
    errorId := f.id.map Uuid.toText
    status := f.status.code
    code := f.code
    description := f.description
    userMessage := f.userMessage
    callId := ctx.header? "x-call-id"
    callPath := ctx.header? "x-call-path"
    caller := ctx.caller
    service := d.service
    api := ctx.endpoint.map (·.api)
    port := d.port
    endpointId := (ctx.endpoint.map EndpointId.describe).getD s!"{ctx.method} {ctx.path}"
    url := ctx.uri.toText
    path := (ctx.endpoint.map (·.path)).getD ctx.path
    method := ctx.method
    caught := f.caught
    trace := f.trace }

/-- The report of a failed call. -/
def ofFailure (d : CrashDesk) (ctx : RequestContext) (f : Failure) : CrashReport :=
  let severity := if f.isFatal then "FATAL ERROR" else "NON-FATAL ERROR"
  d.report ctx s!"{severity} {d.service} {f.status.code} {f.code}: {f.description}" f

/-- The report of a call that succeeded but took a number of milliseconds too many. -/
def ofSlowCall (d : CrashDesk) (ctx : RequestContext) (status : Status) (elapsed : Nat) :
    CrashReport :=
  let endpoint := (ctx.endpoint.map EndpointId.describe).getD ctx.path
  let description := s!"{endpoint} took {elapsed} ms"
  let title := s!"NON-FATAL ERROR {d.service} {status.code} slow call: {description}"
  { d.report ctx title (Failure.unhandled description) with
    isFatal := false
    status := status.code
    code := "SLOW_CALL" }

/-- A desk in logs. -/
def describe (d : CrashDesk) : String :=
  "CrashDesk \x7b service: " ++ Text.quoted d.service ++
    s!", port: {d.port}, enabled: {d.enabled}, .. \x7d"

end CrashDesk

/-- A report as JSON; who called and where, what the caller got and what was caught. -/
def CrashReport.toJson (r : CrashReport) : Json :=
  .obj ([("title", .str r.title), ("is_fatal", .bool r.isFatal),
      ("error_id", .ofText? r.errorId),
      ("response", .obj [("status", .int r.status), ("error_code", .str r.code),
        ("error_description", .str r.description), ("user_message", .ofText? r.userMessage)]),
      ("call_id", .ofText? r.callId), ("call_path", .ofText? r.callPath),
      ("user", .obj [("id", .ofText? r.caller.user), ("is_auth", .bool r.caller.isAuthenticated),
        ("ip", .ofText? r.caller.ip), ("forwarded_ip", .ofText? r.caller.forwarded),
        ("user_agent", .ofText? r.caller.agent)]),
      ("server", .obj [("service", .str r.service), ("api_name", .ofText? r.api),
        ("port", .int r.port)]),
      ("endpoint", .obj [("id", .str r.endpointId), ("url", .str r.url), ("path", .str r.path),
        ("method", .str r.method)]),
      ("error_caught", .ofText? r.caught)] ++
    (r.trace.map fun t => ("trace", Json.str t)).toList)

end ApiContract
