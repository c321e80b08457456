import ApiContract.Http.Address
import ApiContract.Http.Header

/-!
# Callers

## Main definitions

* `Caller` — who makes a request, as far as the service can tell
* `Caller.ofRequest` — the caller that headers and the peer's address tell of
-/

namespace ApiContract

/-- Who makes a request. The user is known once a token has been verified. -/
structure Caller where
  user : Option String := none
  ip : Option String := none
  forwarded : Option String := none
  agent : Option String := none
  deriving DecidableEq, Repr

namespace Caller

/-- A caller of whom nothing is known. -/
def anonymous : Caller := {}

/-- The text of a header, unless it is blank. -/
def nonBlank? (headers : Headers) (name : String) : Option String :=
  ((headers.text? name).map Text.trim).filter (· ≠ "")

/-- The caller that headers and the peer's address tell of. Of several forwarding hosts the
first one counts. -/
def ofRequest (headers : Headers) (remote : Option SocketAddress) : Caller :=
  { ip := remote.map fun a => a.ip.toText
    forwarded := ((nonBlank? headers "x-forwarded-for").bind fun hosts =>
      (Text.split hosts ',').head?.map Text.trim).filter (· ≠ "")
    agent := nonBlank? headers "user-agent" }

/-- The caller as a user. -/
def withUser (c : Caller) (user : String) : Caller := { c with user := some user }

/-- Whether the caller has shown a token. -/
def isAuthenticated (c : Caller) : Bool := c.user.isSome

/-- The caller in logs. -/
def logId (c : Caller) : String :=
  match c.user with
  | some user => "user:" ++ user
  | none => "anonymous"

/-- The address at which the caller probably is. -/
def clientIp (c : Caller) : Option String :=
  c.forwarded.orElse fun _ => c.ip

end Caller

end ApiContract
