import ApiContract.Change
import ApiContract.Model.Value
import ApiContract.Time.Pattern

/-!
# Instances and their JSON

An instance is filled slot by slot, checked for its mandatory fields and written as JSON; a
JSON object is read as an instance of a model of a set. Reading is strict for JSON bodies
and lenient for form bodies, where a scalar may be given as plain text.

## Main definitions

* `ModelError` — why a value is no instance of a model
* `Codec` — what happens to undeclared members, and how timestamps are written
* `Instance.assign`, `Instance.set`, `Instance.unset` — filling, in place or not
* `Instance.validate` — checking
* `Instance.toJson` — writing
* `ModelSet.decode`, `ModelSet.decodeForm` — strict and lenient reading
-/

namespace ApiContract

/-- Why a value is no instance of a model. Paths start with `$`. -/
inductive ModelError where
  | missingField (model path : String)
  | nullNotAllowed (model path : String)
  | unknownField (model path : String)
  | typeMismatch (path expected found : String)
  | invalidEnum (path value allowed : String)
  | unknownModel (name : String)
  deriving DecidableEq, Repr

/-- The wording of a model error. -/
def ModelError.message : ModelError → String
  | .missingField model path => s!"{model}: missing mandatory field '{path}'"
  | .nullNotAllowed model path => s!"{model}: field '{path}' may not be null"
  | .unknownField model path => s!"{model}: unknown field '{path}'"
  | .typeMismatch path expected found => s!"'{path}': expected {expected}, got {found}"
  | .invalidEnum path value allowed => s!"'{path}': '{value}' is not one of [{allowed}]"
  | .unknownModel name => s!"unknown model '{name}'"

/-- What happens to members that the model does not declare. -/
inductive UnknownFields where
  | reject
  | tolerate
  deriving DecidableEq, Repr

/-- A policy in settings. -/
def UnknownFields.name : UnknownFields → String
  | reject => "reject"
  | tolerate => "tolerate"

/-- The policy that settings name so. -/
def UnknownFields.ofName? : String → Option UnknownFields
  | "reject" => some reject
  | "tolerate" => some tolerate
  | _ => none

/-- How JSON is read and written: what happens to undeclared members, and the text of a
timestamp. -/
structure Codec where
  unknownFields : UnknownFields := .reject
  writeTimestamp : Instant → String := TimePattern.format TimePattern.default

/-- A codec in logs. -/
def Codec.describe (c : Codec) : String :=
  let policy := match c.unknownFields with
    | .reject => "Reject"
    | .tolerate => "Tolerate"
  "Codec \x7b unknown_fields: " ++ policy ++ ", .. \x7d"

/-- The codec that refuses undeclared members and writes timestamps in the default
pattern. -/
def Codec.default : Codec := {}

namespace Value

mutual

/-- A value as JSON. An infinity or not-a-number is `null`, and bytes are read as text. -/
def encode (c : Codec) : Value → Json
  | .null => .null
  | .bool b => .bool b
  | .integer n => .int n.toInt
  | .number x => Json.ofFloat x
  | .string s => .str s
  | .timestamp t => .str (c.writeTimestamp t)
  | .bytes content => .str (Utf8.decodeLossy content)
  | .list items => .arr (encodeItems c items)
  | .model m slots =>
    let written := encodeSlots c slots
    Json.ofMembers (m.fields.filterMap fun f =>
      (Members.lookup f.name written).map fun j => (f.name, j))

/-- Values as JSON. -/
def encodeItems (c : Codec) : List Value → List Json
  | [] => []
  | v :: rest => v.encode c :: encodeItems c rest

/-- Slots with their values as JSON. -/
def encodeSlots (c : Codec) : List (String × Value) → List (String × Json)
  | [] => []
  | (k, v) :: rest => (k, v.encode c) :: encodeSlots c rest

end

/-- The first failure among the fields of a model: a mandatory field without a slot, or a
failure inside a slot's value. -/
def validateFields (model path : String)
    (checks : List (String × (String → Except ModelError Unit))) :
    List Field → Except ModelError Unit
  | [] => .ok ()
  | f :: rest => do
    let place := path ++ "." ++ f.name
    match Members.lookup f.name checks with
    | some check => check place
    | none =>
      if f.presence = .mandatory then throw (.missingField model place)
    validateFields model path checks rest

mutual

/-- Checks the mandatory fields of every instance inside a value. -/
def validate : Value → String → Except ModelError Unit
  | .list items, path => validateItems items path 0
  | .model m slots, path => validateFields m.name path (slotChecks slots) m.fields
  | _, _ => .ok ()

/-- Checks the items of a list, the first of which has the given index. -/
def validateItems : List Value → String → Nat → Except ModelError Unit
  | [], _, _ => .ok ()
  | v :: rest, path, i => do
    v.validate s!"{path}[{i}]"
    validateItems rest path (i + 1)

/-- For each slot the check of its value. -/
def slotChecks : List (String × Value) → List (String × (String → Except ModelError Unit))
  | [] => []
  | (k, v) :: rest => (k, fun path => v.validate path) :: slotChecks rest

end

end Value

namespace Instance

/-- The value of a slot. -/
def get? (i : Instance) (name : String) : Option Value :=
  Members.lookup name i.slots

/-- Whether a field is set, possibly to `null`. -/
def isSet (i : Instance) (name : String) : Bool :=
  (i.get? name).isSome

/-- An instance with a slot filled, whatever the field says. -/
def put (i : Instance) (name : String) (v : Value) : Instance :=
  { i with slots := Members.insert name v i.slots }

/-- An instance with a slot emptied. -/
def unset (i : Instance) (name : String) : Instance :=
  { i with slots := Members.erase name i.slots }

/-- An integer that fills a number field becomes a number. -/
def widen : FieldType → Value → Value
  | .number, .integer n => .number (Decimal.ofInt n.toInt)
  | _, v => v

/-- Sets a field in place, if the model declares it and the value fits it. A `null` unsets an
optional field. -/
def assign (name : String) (v : Value) : Change Instance ModelError Unit := do
  let i ← get
  let path := "$." ++ name
  match i.model.field? name with
  | none => throw (.unknownField i.model.name path)
  | some f =>
    if v.isNull then
      match f.presence with
      | .mandatory => throw (.nullNotAllowed i.model.name path)
      | .nullable => modify fun i => i.put name .null
      | .optional => modify fun i => i.unset name
    else if Value.conforms f.type v then modify fun i => i.put name (widen f.type v)
    else throw (.typeMismatch path f.type.describe v.typeName)

/-- An instance with a field set, if it can be set. -/
def set (i : Instance) (name : String) (v : Value) : Except ModelError Instance :=
  (assign name v).result i

/-- Checks that every mandatory field is set, also in nested instances. -/
def validate (i : Instance) : Except ModelError Unit :=
  (Value.ofInstance i).validate "$"

/-- An instance as JSON: the set fields, in increasing order of names. -/
def toJson (c : Codec) (i : Instance) : Json :=
  (Value.ofInstance i).encode c

end Instance

/-! ### Reading -/

/-- Whether scalars may be given as plain text. -/
inductive Mode where
  | strict
  | lenient
  deriving DecidableEq, Repr

namespace ModelSet

/-- An instance of a model without any field set. -/
def instance? (s : ModelSet) (name : String) : Except ModelError Instance :=
  match s.get? name with
  | some m => .ok { model := m }
  | none => .error (.unknownModel name)

/-- A way to read a value of a type at a path. -/
abbrev Reader := FieldType → String → Except ModelError Value

/-- The failure of a value that is not of a type. -/
def mismatch (type : FieldType) (path : String) (json : Json) : ModelError :=
  .typeMismatch path type.describe json.kindName

/-- A text that stands for one of the allowed ones. -/
def readMember (allowed : List String) (path s : String) : Except ModelError Value :=
  if allowed.contains s then .ok (.string s)
  else .error (.invalidEnum path s (Text.join ", " allowed))

/-- A text as plain input of a scalar type. -/
def readText (type : FieldType) (path s : String) : Except ModelError Value :=
  match Value.readScalar type s with
  | .ok v => .ok v
  | .error _ =>
    match type with
    | .oneOf allowed => .error (.invalidEnum path s (Text.join ", " allowed))
    | _ => .error (mismatch type path (.str s))

/-- A JSON value that is neither array nor object, read as a value of a type. -/
def readAtom (s : ModelSet) (mode : Mode) (json : Json) : Reader := fun type path =>
  let expect (v? : Option Value) : Except ModelError Value :=
    match v? with
    | some v => .ok v
    | none => .error (mismatch type path json)
  match mode, json, type.isScalar with
  | .lenient, .str text, true => readText type path text
  | _, _, _ =>
    match type with
    | .bool => expect (json.asBool?.map .bool)
    | .integer => expect (json.asInt64?.map .integer)
    | .number => expect (json.asFloat?.map .number)
    | .string => expect (json.asStr?.map .string)
    | .timestamp => expect ((json.asStr?.bind Instant.read?).map .timestamp)
    | .bytes => expect (json.asStr?.map fun text => .bytes (Utf8.encode text))
    | .oneOf allowed =>
      match json.asStr? with
      | some text => readMember allowed path text
      | none => .error (mismatch type path json)
    | .model name => do
      let empty ← s.instance? name
      throw (.typeMismatch path empty.model.name json.kindName)
    | .list _ => .error (mismatch type path json)

/-- The fields of a model read into an instance from the members of an object, given for
each member whether it is `null` and how to read it. -/
def readFields (path : String) (readers : List (String × Bool × Reader)) :
    List Field → Instance → Except ModelError Instance
  | [], i => .ok i
  | f :: rest, i => do
    let place := path ++ "." ++ f.name
    match Members.lookup f.name readers with
    | none =>
      if f.presence = .mandatory ∧ !i.isSet f.name then
        throw (.missingField i.model.name place)
      readFields path readers rest i
    | some (true, _) =>
      match f.presence with
      | .mandatory => throw (.nullNotAllowed i.model.name place)
      | .nullable => readFields path readers rest (i.put f.name .null)
      | .optional => readFields path readers rest i
    | some (false, reader) =>
      let v ← reader f.type place
      readFields path readers rest (i.put f.name v)

/-- The first member that a model does not declare. -/
def undeclared? (m : Model) (keys : List String) : Option String :=
  keys.find? fun k => (m.field? k).isNone

/-- The members of an object read into an instance. -/
def readObject (c : Codec) (path : String) (readers : List (String × Bool × Reader))
    (i : Instance) : Except ModelError Instance :=
  match c.unknownFields, undeclared? i.model (Members.keys readers) with
  | .reject, some key => .error (.unknownField i.model.name (path ++ "." ++ key))
  | _, _ => readFields path readers i.model.fields i

mutual

/-- A JSON value read as a value of a type at a path. -/
def readValue (s : ModelSet) (c : Codec) (mode : Mode) : Json → Reader
  | .arr items => fun type path =>
    match type with
    | .list element => (readItems s c mode items element path 0).map .list
    | _ => readAtom s mode (.arr items) type path
  | .obj members => fun type path =>
    match type with
    | .model name => do
      let empty ← s.instance? name
      let i ← readObject c path (memberReaders s c mode members) empty
      return Value.ofInstance i
    | _ => readAtom s mode (.obj members) type path
  | atom => readAtom s mode atom

/-- The items of an array read as elements of a list, the first of which has the given
index. -/
def readItems (s : ModelSet) (c : Codec) (mode : Mode) :
    List Json → FieldType → String → Nat → Except ModelError (List Value)
  | [], _, _, _ => .ok []
  | item :: rest, element, path, i => do
    let place := s!"{path}[{i}]"
    if item.isNull then throw (.nullNotAllowed element.describe place)
    let v ← readValue s c mode item element place
    let more ← readItems s c mode rest element path (i + 1)
    return v :: more

/-- For each member of an object whether it is `null` and how to read it. -/
def memberReaders (s : ModelSet) (c : Codec) (mode : Mode) :
    List (String × Json) → List (String × Bool × Reader)
  | [] => []
  | (key, json) :: rest =>
    (key, json.isNull, fun type path => readValue s c mode json type path) ::
      memberReaders s c mode rest

end

/-- A JSON value read into an instance that may already have slots. -/
def readInto (s : ModelSet) (c : Codec) (mode : Mode) (json : Json) (i : Instance) :
    Except ModelError Instance :=
  match json with
  | .obj members => readObject c "$" (memberReaders s c mode members) i
  | other => .error (.typeMismatch "$" i.model.name other.kindName)

/-- A JSON body read as an instance of a model. -/
def decode (s : ModelSet) (c : Codec) (name : String) (json : Json) :
    Except ModelError Instance := do
  s.readInto c .strict json (← s.instance? name)

/-- Files put into the slots of their names; a file without a field of its name is
dropped. -/
def setFiles : List (String × List UInt8) → Instance → Except ModelError Instance
  | [], i => .ok i
  | (name, content) :: rest, i =>
    if (i.model.field? name).isSome then do setFiles rest (← i.set name (.bytes content))
    else setFiles rest i

/-- The members of a form without those that a file of the same name replaces. -/
def withoutFiles (files : List (String × List UInt8)) : Json → Json
  | .obj members => .obj (files.foldl (fun members file => Members.erase file.1 members) members)
  | other => other

/-- A form body with its files read as an instance of a model. -/
def decodeForm (s : ModelSet) (c : Codec) (name : String) (form : Json)
    (files : List (String × List UInt8)) : Except ModelError Instance := do
  let preset ← setFiles files (← s.instance? name)
  s.readInto c .lenient (withoutFiles files form) preset

end ModelSet

end ApiContract
