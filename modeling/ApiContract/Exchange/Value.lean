import ApiContract.Contract.Compile
import ApiContract.Json.Access
import ApiContract.Time.Pattern

/-!
# Values and models in exchange

Other programs state models and values in JSON and read values back. A value is an object
whose only key names its kind; numbers are texts, so that none of their digits is lost.

## Main definitions

* `Value.toTagged`, `Value.ofTagged` — values in exchange
* `ModelSet.ofDescription`, `Codec.ofDescription` — models and codecs in exchange
-/

namespace ApiContract

/-! ### Models -/

/-- A type in exchange; what is none counts as a text. -/
def FieldType.ofDescription (j : Json) : FieldType := (FieldType.ofJson? j).getD .string

/-- A presence in exchange: its name, or two flags. -/
def Presence.ofDescription : Json → Presence
  | .str "mandatory" => .mandatory
  | .str "nullable" => .nullable
  | .str _ => .optional
  | j => .ofFlags (j.flagAt "mandatory") (j.flagAt "nullable")

/-- A field in exchange: its name, type, presence and description. -/
def Field.ofDescription (j : Json) : Field where
  name := j.word 0
  type := .ofDescription (j.item 1)
  presence := .ofDescription (j.item 2)
  description := (j.item 3).asStr?

/-- A model in exchange; its parent is the last of the earlier models that has the name. -/
def Model.ofDescription (api : String) (earlier : List Model) (j : Json) : Model :=
  let parent := (j.textAt? "parent").bind fun p => earlier.reverse.find? fun m => m.name == p
  let m := Model.empty (j.textAt "name") api
  let m := match parent with
    | some p => m.extend p
    | none => m
  (j.itemsAt "fields").foldl (fun m f => m.withField (.ofDescription f)) m

/-- A set of models in exchange: a list of models, or a contract document. -/
def ModelSet.ofDescription (j : Json) : Except ContractError ModelSet :=
  let api := (j.textAt? "api").getD "api"
  match j.given? "models", j.textAt? "yaml" with
  | none, some yaml => (Contract.parse api yaml).bind Contract.models
  | _, _ =>
    let models := (j.itemsAt "models").foldl
      (fun models m => models ++ [Model.ofDescription api models m]) []
    .ok (models.foldl ModelSet.insert { api })

/-- A codec in exchange: whether undeclared members are tolerated, and the pattern in which
timestamps are written, or that they are written as seconds. -/
def Codec.ofDescription (j : Json) : Codec where
  unknownFields := if j.flagAt "tolerate" then .tolerate else .reject
  writeTimestamp :=
    if j.flagAt "ts_seconds" then fun t => toString t.unixSeconds
    else match j.textAt? "ts_format" with
      | some p => TimePattern.format ((TimePattern.read? p).getD [])
      | none => Codec.default.writeTimestamp

/-! ### Values -/

namespace Value

/-- The pattern of timestamps in exchange, with all digits of the fraction. -/
def exactPattern : List TimePattern.Item :=
  (TimePattern.read? "%Y-%m-%dT%H:%M:%S%.9fZ").getD []

mutual

/-- A value in exchange. -/
def toTagged : Value → Json
  | .null => .obj [("null", .bool true)]
  | .bool b => .obj [("bool", .bool b)]
  | .integer n => .obj [("integer", .str (toString n.toInt))]
  | .number x => .obj [("number", .str (Decimal.text x))]
  | .string s => .obj [("string", .str s)]
  | .timestamp t => .obj [("timestamp", .str (TimePattern.format exactPattern t))]
  | .bytes b => .obj [("bytes", .str (Hex.ofBytes b))]
  | .list items => .obj [("list", .arr (toTaggedItems items))]
  | .model m slots =>
    let slots := toTaggedSlots slots
    .obj [("model", .str m.name), ("fields", .arr (m.fieldNames.filterMap fun name =>
      (Members.lookup name slots).map fun v => .arr [.str name, v]))]

/-- Values in exchange. -/
def toTaggedItems : List Value → List Json
  | [] => []
  | v :: rest => toTagged v :: toTaggedItems rest

/-- Slots in exchange. -/
def toTaggedSlots : List (String × Value) → List (String × Json)
  | [] => []
  | (name, v) :: rest => (name, toTagged v) :: toTaggedSlots rest

end

mutual

/-- A value from its exchange form. An instance takes its fields one after another. What is
no such form counts as null. -/
def ofTagged (s : ModelSet) : Json → Except ModelError Value
  | .obj [("bool", .bool b)] => .ok (.bool b)
  | .obj [("integer", .str n)] => .ok (.integer ((Decimal.readInt64? n).getD 0))
  | .obj [("number", .str x)] => .ok (.number ((Decimal.readFloat? x).getD 0))
  | .obj [("string", .str t)] => .ok (.string t)
  | .obj [("timestamp", .str t)] => .ok (.timestamp ((Instant.read? t).getD .epoch))
  | .obj [("bytes", .str b)] => .ok (.bytes ((Hex.toBytes? b).getD []))
  | .obj [("list", .arr items)] => do return .list (← ofTaggedItems s items)
  | .obj [("model", .str name)] => do return ofInstance (← s.instance? name)
  | .obj [("fields", .arr fields), ("model", .str name)]
  | .obj [("model", .str name), ("fields", .arr fields)] => do
    return ofInstance (← ofTaggedFields s fields (← s.instance? name))
  | _ => .ok .null

/-- Values from their exchange forms. -/
def ofTaggedItems (s : ModelSet) : List Json → Except ModelError (List Value)
  | [] => .ok []
  | j :: rest => do
    let v ← ofTagged s j
    return v :: (← ofTaggedItems s rest)

/-- An instance with fields that are set one after another. -/
def ofTaggedFields (s : ModelSet) : List Json → Instance → Except ModelError Instance
  | .arr [.str name, j] :: rest, i => do ofTaggedFields s rest (← i.set name (← ofTagged s j))
  | _ :: rest, i => ofTaggedFields s rest i
  | [], i => .ok i

end

end Value

/-- The fields of an instance that are set, in the order of declaration. -/
def Instance.taggedFields (i : Instance) : Json :=
  (Value.ofInstance i).toTagged.get "fields"

end ApiContract
