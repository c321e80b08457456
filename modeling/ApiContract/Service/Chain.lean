import ApiContract.Failure
import ApiContract.Http.Response
import ApiContract.Request.Context
import ApiContract.Text.Quoted

/-!
# Chains of stages

Stages run around every call. Those before a call may enrich its context or refuse it; those
after it see every response, of failures too.

## Main definitions

* `PreStage`, `PostStage`, `Chain` — stages, and a chain of them
* `Chain.runPre`, `Chain.runPost` — running the stages before and after a call
* `requestIdBefore`, `requestIdAfter` — the identifier of a request comes from its header and
  goes into the header of the response
* `accessLog` — a stage that leaves the response alone
-/

namespace ApiContract

/-- A stage before a call. -/
structure PreStage where
  name : String
  before : RequestContext → Except Failure RequestContext

/-- A stage after a call. -/
structure PostStage where
  name : String
  after : RequestContext → Response → Response

/-- Stages before and after a call, in order. -/
structure Chain where
  pre : List PreStage := []
  post : List PostStage := []

namespace Chain

/-- The context after the stages before a call, or the first refusal. -/
def runPre (c : Chain) (ctx : RequestContext) : Except Failure RequestContext :=
  c.pre.foldlM (fun ctx stage => stage.before ctx) ctx

/-- The response after the stages after a call. -/
def runPost (c : Chain) (ctx : RequestContext) (r : Response) : Response :=
  c.post.foldl (fun r stage => stage.after ctx r) r

/-- The names of the stages before a call. -/
def preNames (c : Chain) : List String := c.pre.map (·.name)

/-- The names of the stages after a call. -/
def postNames (c : Chain) : List String := c.post.map (·.name)

/-- A chain in logs. -/
def describe (c : Chain) : String :=
  "Chain \x7b pre: " ++ Text.listed (c.preNames.map Text.quoted) ++ ", post: " ++
    Text.listed (c.postNames.map Text.quoted) ++ " \x7d"

end Chain

/-- The header that identifiers of requests come and go in. -/
def requestIdHeader : String := "x-request-id"

/-- The identifier that a request brings along. -/
def incomingId? (ctx : RequestContext) : Option Uuid :=
  (ctx.header? requestIdHeader).bind fun text => Uuid.read? (Text.trim text)

/-- The stage that takes the identifier from the request, if it is trusted and brings one;
else the request keeps the one that was made for it. -/
def requestIdBefore (trust : Bool) : PreStage where
  name := "request_id"
  before ctx :=
    .ok (if trust then { ctx with id := (incomingId? ctx).getD ctx.id } else ctx)

/-- The stage that puts the identifier into the response. -/
def requestIdAfter : PostStage where
  name := "request_id"
  after ctx r := r.withHeader requestIdHeader ctx.id.toText

/-- The stage that logs a call. -/
def accessLog : PostStage where
  name := "access_log"
  after _ r := r

end ApiContract
