import ApiContract.Service.Chain

/-!
# Bearer authentication

A call outside of the exempt paths needs a token that a verifier knows. What the token says
of its bearer becomes the user of the call.

## Main definitions

* `TokenError`, `TokenVerifier`, `TokenTable` — tokens and their verification
* `BearerAuth`, `BearerAuth.stage` — the stage that asks for a token
-/

namespace ApiContract

/-- Why a token is refused. -/
inductive TokenError where
  | invalid (reason : String)
  | expired
  deriving DecidableEq, Repr

/-- The failure that a caller with a refused token is told of. -/
def TokenError.toFailure : TokenError → Failure
  | .invalid reason => { kind := .tokenInvalid, description := reason }
  | .expired => { kind := .tokenExpired, description := "token has expired" }

/-- The user that a token belongs to. -/
abbrev TokenVerifier := String → Except TokenError String

/-- Tokens with their users; a token without user has expired. -/
abbrev TokenTable := List (String × Option String)

/-- Verification by a fixed table. -/
def TokenTable.verifier (t : TokenTable) : TokenVerifier := fun token =>
  match Members.lookup token t with
  | some (some user) => .ok user
  | some none => .error .expired
  | none => .error (.invalid "unknown token")

/-- Who is asked for tokens, and the starts of the paths that need none. -/
structure BearerAuth where
  verifier : TokenVerifier
  exempt : List String := []

namespace BearerAuth

/-- Whether a path needs no token. -/
def isExempt (a : BearerAuth) (path : String) : Bool :=
  a.exempt.any fun start => Text.startsWith path start

/-- The value of the header that holds the token. -/
def credentials (ctx : RequestContext) : Except Failure String :=
  match ((ctx.header? "authorization").map Text.trim).filter (· ≠ "") with
  | some text => .ok text
  | none => .error { kind := .authorizationHeaderMissing,
                     description := "Authorization header missing" }

/-- The token in the value of the header. -/
def token (credentials : String) : Except Failure String :=
  match Text.splitOnce credentials ' ' with
  | some (scheme, token) =>
    if Text.eqIgnoreCase scheme "bearer" then .ok (Text.trim token) else malformed
  | none => malformed
where
  malformed : Except Failure String :=
    .error { kind := .tokenInvalid,
             description := "Authorization header must be 'Bearer <token>'" }

/-- The user that the header of a request proves. -/
def user (a : BearerAuth) (ctx : RequestContext) : Except Failure String := do
  let token ← token (← credentials ctx)
  match a.verifier token with
  | .ok user => return user
  | .error e => throw e.toFailure

/-- The stage that asks for a token. -/
def stage (a : BearerAuth) : PreStage where
  name := "bearer_auth"
  before ctx :=
    if a.isExempt ctx.path then .ok ctx
    else do
      let user ← a.user ctx
      return { ctx with caller := ctx.caller.withUser user }

/-- The stage in logs. -/
def describe (a : BearerAuth) : String :=
  "BearerAuth \x7b exempt: " ++ Text.listed (a.exempt.map Text.quoted) ++ ", .. \x7d"

end BearerAuth

end ApiContract
