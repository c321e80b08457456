import ApiContract.Http.Header
import ApiContract.Http.Status
import ApiContract.Json.Write

/-!
# Responses

## Main definitions

* `Response` — a status, headers and a body
* `Response.ofJson` — a response whose body is JSON text
-/

namespace ApiContract

/-- A response. -/
structure Response where
  status : Status := .ok
  headers : Headers := []
  body : List UInt8 := []
  deriving DecidableEq, Repr

namespace Response

/-- The response with a header in place of all others of its name. -/
def withHeader (r : Response) (name value : String) : Response :=
  { r with headers := r.headers.set name value }

/-- A response whose body is JSON text. -/
def ofJson (status : Status) (json : Json) : Response :=
  { status
    headers := Headers.append [] "content-type" "application/json"
    body := Utf8.encode json.compact }

end Response

end ApiContract
