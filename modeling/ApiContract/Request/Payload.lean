import ApiContract.Json.Read
import ApiContract.Request.Multipart
import ApiContract.Request.Urlencoded

/-!
# Payloads

A body is read as its content type says: as a URL-encoded or multipart form, and as JSON
otherwise. A blank body has no fields, whatever its type.

## Main definitions

* `BodyKind`, `BodyKind.ofContentType` — how a body is read
* `Payload`, `readPayload` — the fields and files of a body
-/

namespace ApiContract

/-- How a body is read. -/
inductive BodyKind where
  | json
  | urlencoded
  | multipart
  deriving DecidableEq, Repr

namespace BodyKind

/-- How a body of a content type is read. -/
def ofContentType (contentType : Option String) : BodyKind :=
  match contentType.bind MediaType.read? with
  | none => json
  | some m =>
    if m.type = "application" ∧ m.subtype = "x-www-form-urlencoded" then urlencoded
    else if m.type = "multipart" ∧ m.subtype = "form-data" then multipart
    else json

/-- Whether a body is a form. -/
def isForm : BodyKind → Bool
  | json => false
  | urlencoded | multipart => true

end BodyKind

/-- A body that has been read. The fields of a form are texts; JSON may be of any shape. -/
structure Payload where
  kind : BodyKind
  fields : Json := .obj []
  files : List (String × List UInt8) := []

namespace Payload

/-- A field as text. -/
def field? (p : Payload) (name : String) : Option String :=
  (p.fields.member? name).bind Json.asStr?

/-- The JSON of text fields. -/
def ofFields (fields : List (String × String)) : Json :=
  .obj (fields.map fun f => (f.1, .str f.2))

end Payload

/-- Whether a byte is an ASCII blank. -/
def isBlankByte (b : UInt8) : Bool :=
  b == 0x20 || b == 0x09 || b == 0x0A || b == 0x0C || b == 0x0D

/-- The fields and files of a body. -/
def readPayload (contentType : Option String) (body : List UInt8) (limits : MultipartLimits) :
    Except ExtractionError Payload :=
  let kind := BodyKind.ofContentType contentType
  if body.all isBlankByte then .ok { kind }
  else match kind with
    | .json =>
      match (Utf8.decode? body).bind Json.read with
      | some fields => .ok { kind, fields }
      | none => .error (.malformed .body ExtractionError.unspecified)
    | .urlencoded => .ok { kind, fields := Payload.ofFields (Urlencoded.fields body) }
    | .multipart => do
      let form ← readMultipart (contentType.getD "") body limits
      return { kind, fields := Payload.ofFields form.fields, files := form.files }

end ApiContract
