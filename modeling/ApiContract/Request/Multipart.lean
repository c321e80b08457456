import ApiContract.Http.MediaType
import ApiContract.Json.Value
import ApiContract.Request.ExtractionError
import ApiContract.Text.Percent

/-!
# Multipart bodies

A multipart body is a sequence of parts with a boundary before each and after the last. A
part has headers, which may name it and say that it is a file, and a content. The parts are
delivered one after another, until the body ends or breaks off.

## Main definitions

* `Parts` — the parts of a body as they are delivered
* `Parts.ofBody` — the parts between the boundaries of a body
* `MultipartLimits`, `readParts` — the fields and files of the parts, within limits
-/

namespace ApiContract

/-- A part of a multipart body. -/
structure Part where
  name : String
  isFile : Bool
  content : List UInt8
  deriving DecidableEq, Repr

/-- The parts of a body as they are delivered. A body may break off before a further part
is found, or within the content of a part. -/
inductive Parts where
  | done
  | broken
  | cut
  | part (p : Part) (rest : Parts)

namespace Parts

/-- Parts that are delivered in full. -/
def ofList : List Part → Parts
  | [] => .done
  | p :: rest => .part p (ofList rest)

/-! ### Finding the parts -/

/-- What stands before and after the first occurrence of a pattern. -/
def splitAt? (pattern : List UInt8) : List UInt8 → Option (List UInt8 × List UInt8)
  | [] => if pattern.isEmpty then some ([], []) else none
  | b :: rest =>
    match Text.dropLeading? pattern (b :: rest) with
    | some after => some ([], after)
    | none => (splitAt? pattern rest).map fun (before, after) => (b :: before, after)

/-- A carriage return and a line feed. -/
def lineEnd : List UInt8 := [0x0D, 0x0A]

/-- Two hyphens. -/
def hyphens : List UInt8 := [0x2D, 0x2D]

/-- Whether a byte may occur in a header's value. -/
def isValueByte (b : UInt8) : Bool := (0x20 ≤ b && b ≠ 0x7F) || b == 0x09

/-- Whether a byte is a blank or a tab. -/
def isGap (b : UInt8) : Bool := b == 0x20 || b == 0x09

/-- The headers of a part, one a line. -/
def readHeaders (lines : List (List UInt8)) : Option (List (String × List UInt8)) :=
  lines.mapM fun line => do
    let name ← Utf8.decode? (line.takeWhile (· != 0x3A))
    let key ← Http.headerName? name
    match line.dropWhile (· != 0x3A) with
    | [] => none
    | _ :: value =>
      let value := value.dropWhile isGap
      if value.all isValueByte then some (key, (value.reverse.dropWhile isGap).reverse) else none

/-- How many headers a part may have. -/
def maxHeaders : Nat := 32

/-- The lines of a text that ends in a line end, without the carriage returns before the
ends. -/
def lines (bytes : List UInt8) : List (List UInt8) :=
  (Text.pieces (· == 0x0A) bytes).map fun line =>
    if line.getLast? == some 0x0D then line.dropLast else line

/-- The headers before an empty line, if they are well-formed. -/
def headers? (block : List UInt8) : Option (List (String × List UInt8)) :=
  let headers := (lines block).takeWhile fun line => !line.isEmpty
  if maxHeaders < headers.length then none else readHeaders headers

/-- A text up to the next quote that no backslash stands before, in which a backslash before
a quote is left out. -/
def unquote? : List UInt8 → Option (List UInt8)
  | [] => none
  | 0x22 :: _ => some []
  | 0x5C :: 0x22 :: rest => (unquote? rest).map (0x22 :: ·)
  | b :: rest => (unquote? rest).map (b :: ·)

/-- What follows an equals sign, in quotes or up to a semicolon or a blank. -/
def attributeValue? (bytes : List UInt8) : Option (List UInt8) :=
  match bytes.dropWhile isGap with
  | 0x3D :: rest =>
    match rest.dropWhile isGap with
    | 0x22 :: quoted => unquote? quoted
    | bare => some (bare.takeWhile fun b => b != 0x3B && b != 0x20)
  | _ => none

/-- The value of an attribute of a header, after `skip` bytes that are passed over. Where the
name first stands, at the beginning or after a semicolon or a gap, it has its value; a name
that is the end of a longer one is passed over. -/
def attribute? (name : List UInt8) : Nat → Option UInt8 → List UInt8 → Option (List UInt8)
  | _, _, [] => none
  | skip + 1, _, _ :: rest => attribute? name skip none rest
  | 0, previous, b :: rest =>
    match Text.dropLeading? name (b :: rest) with
    | none => attribute? name 0 (some b) rest
    | some after =>
      if previous.all fun p => p == 0x3B || isGap p then attributeValue? after
      else attribute? name (name.length - 1) none rest

/-- The name of a part and whether it is a file, from its headers. -/
def disposition (headers : List (String × List UInt8)) : String × Bool :=
  match List.lookup "content-disposition" headers.reverse with
  | none => ("", false)
  | some value =>
    let text? (name : String) : Option String :=
      (attribute? (Utf8.encode name) 0 none value).bind Utf8.decode?
    ((text? "name").getD "", (text? "filename").isSome)

/-- The parts after a boundary, at most `fuel` of them. -/
def afterBoundary (boundary : List UInt8) : Nat → List UInt8 → Parts
  | 0, _ => .broken
  | fuel + 1, bytes =>
    if bytes.length < 2 then .broken
    else if bytes.take 2 == hyphens then .done
    else match Text.dropLeading? lineEnd (bytes.dropWhile isGap) with
      | none => .broken
      | some rest =>
        match splitAt? (lineEnd ++ lineEnd) rest with
        | none => .broken
        | some (block, rest) =>
          match headers? block with
          | none => .broken
          | some headers =>
            let (name, isFile) := disposition headers
            match splitAt? (lineEnd ++ hyphens ++ boundary) rest with
            | none => .cut
            | some (content, rest) =>
              .part { name, isFile, content } (afterBoundary boundary fuel rest)

/-- The parts between the boundaries of a body. What stands before the first boundary is
passed over. -/
def ofBody (boundary : String) (body : List UInt8) : Parts :=
  let boundary := Utf8.encode boundary
  match splitAt? (hyphens ++ boundary) body with
  | none => .broken
  | some (_, rest) => afterBoundary boundary (rest.length + 1) rest

end Parts

/-- How many parts are read, and how many bytes each may have. -/
structure MultipartLimits where
  maxFields : Nat := 100
  maxFieldSize : Nat := 10 * 1024 * 1024
  deriving DecidableEq, Repr

/-- The text fields of a form, in increasing order of names, and its files, in the order of
their first appearance. -/
structure Form where
  fields : List (String × String) := []
  files : List (String × List UInt8) := []
  deriving DecidableEq, Repr

namespace Form

/-- A form with a file added, unless there is one of the name. -/
def addFile (f : Form) (name : String) (content : List UInt8) : Form :=
  if Members.contains name f.files then f else { f with files := f.files ++ [(name, content)] }

/-- A form with a text field added, unless there is one of the name. -/
def addField (f : Form) (name text : String) : Form :=
  { f with fields := Members.insertNew name text f.fields }

/-- A form with a part added: a file as its bytes, anything else as text. -/
def addPart (f : Form) (limits : MultipartLimits) (p : Part) : Except ExtractionError Form :=
  if limits.maxFieldSize < p.content.length then
    .error (.tooLarge limits.maxFieldSize p.content.length)
  else if p.isFile then .ok (f.addFile p.name p.content)
  else match Utf8.decode? p.content with
    | some text => .ok (f.addField p.name text)
    | none => .error (.invalidType .form p.name "not valid UTF-8")

end Form

/-- The failure of a body with too many parts. -/
def tooManyParts (limits : MultipartLimits) : ExtractionError :=
  .malformed .body s!"too many multipart fields (max {limits.maxFields})"

/-- The fields and files of the parts, `count` of which have been read into `f`. Of the
parts of one name the first counts. A part too many is refused before its content is
looked at. -/
def readParts (limits : MultipartLimits) (count : Nat) (f : Form) :
    Parts → Except ExtractionError Form
  | .done => .ok f
  | .broken => .error (.malformed .body ExtractionError.unspecified)
  | .cut =>
    if limits.maxFields ≤ count then .error (tooManyParts limits)
    else .error (.malformed .form ExtractionError.unspecified)
  | .part p rest => do
    if limits.maxFields ≤ count then throw (tooManyParts limits)
    let f ← f.addPart limits p
    readParts limits (count + 1) f rest

/-- The boundary that a content type names. -/
def boundary? (contentType : String) : Option String :=
  (MediaType.read? contentType).bind fun m =>
    if m.type = "multipart" ∧ m.subtype = "form-data" then m.param? "boundary" else none

/-- The form in a multipart body. -/
def readMultipart (contentType : String) (body : List UInt8) (limits : MultipartLimits) :
    Except ExtractionError Form :=
  match boundary? contentType with
  | none => .error (.malformed .contentType "missing or invalid multipart boundary")
  | some boundary => readParts limits 0 {} (Parts.ofBody boundary body)

end ApiContract
