import ApiContract.Decimal.Read
import ApiContract.Decimal.Shortest
import ApiContract.Json.Value
import ApiContract.Text.Quoted
import ApiContract.Yaml.Node

/-!
# YAML values

Where a document does not say what a scalar is, a plain scalar is null, a boolean or a
number if it reads as one, and a text otherwise. Collections may enclose one another only
down to a depth.

## Main definitions

* `Yaml.plainValue` — what a plain scalar stands for
* `Yaml.Value`, `Yaml.Value.ofNode?` — the value of a node
* `Yaml.Value.describe` — a value in messages
* `Yaml.jsonOf?` — the JSON of a node
-/

namespace ApiContract.Yaml

/-- How many collections may enclose one another. -/
def maxDepth : Nat := 128

/-- A number: whole, or a float. -/
inductive Number where
  | whole (n : Int)
  | float (x : Float)
  deriving Repr

/-- Numbers are written like other numbers, except for the sign of a large exponent and the
words for infinities and for not-a-number. -/
def numberLayout : Decimal.Layout :=
  { Decimal.numberLayout with plusSign := false, infinite := ".inf", notANumber := ".nan" }

/-- A number as text. -/
def Number.text : Number → String
  | .whole n => toString n
  | .float x => Decimal.render numberLayout x

/-- A value; a text may carry a tag of the document's own, and so may any other value. -/
inductive Value where
  | null
  | bool (b : Bool)
  | number (n : Number)
  | string (s : String)
  | sequence (items : List Value)
  | mapping (pairs : List (Value × Value))
  | tagged (tag : String) (value : Value)
  deriving Repr

/-! ### Plain scalars -/

/-- Whether a plain scalar is one of the words for null. -/
def isNullWord (s : String) : Bool :=
  ["~", "null", "Null", "NULL"].contains s

/-- The boolean that a plain scalar stands for. -/
def boolWord? (s : String) : Option Bool :=
  if ["true", "True", "TRUE"].contains s then some true
  else if ["false", "False", "FALSE"].contains s then some false
  else none

/-- The value of a digit in a base of at most sixteen. -/
def digitIn? (base : Nat) (c : Char) : Option Nat :=
  (Hex.value? c).filter (· < base)

/-- The number of one or more digits in a base. -/
def ofDigitsIn? (base : Nat) (cs : List Char) : Option Nat :=
  if cs.isEmpty then none
  else cs.foldlM (fun acc c => (digitIn? base c).map (acc * base + ·)) 0

/-- The number of digits after the mark of their base. -/
def ofMarked? : List Char → Option Nat
  | '0' :: 'x' :: rest => ofDigitsIn? 16 rest
  | '0' :: 'o' :: rest => ofDigitsIn? 8 rest
  | '0' :: 'b' :: rest => ofDigitsIn? 2 rest
  | _ => none

/-- Whether digits start with a zero that is not alone. -/
def hasLeadingZero (cs : List Char) : Bool :=
  match cs with
  | '0' :: rest => !rest.isEmpty && rest.all Decimal.isDigit
  | _ => false

/-- The whole number that a plain scalar stands for, of any size. -/
def whole? (s : String) : Option Int :=
  let (negative, digits) := Decimal.takeSign s.toList
  let size := (ofMarked? digits).orElse fun _ =>
    if hasLeadingZero digits then none else ofDigitsIn? 10 digits
  size.map fun n => if negative then -(n : Int) else n

/-- Whether a whole number fits 128 bits, with or without a sign. -/
def fits128 (n : Int) : Bool := -(Decimal.bound 127 : Int) ≤ n && n < Decimal.bound 128

/-- The float that a plain scalar stands for. -/
def float? (s : String) : Option Float :=
  let cs := s.toList
  let unsigned := match cs with
    | '+' :: rest => rest
    | cs => cs
  let word := String.ofList unsigned
  if [".inf", ".Inf", ".INF"].contains word then some Decimal.infinity
  else if ["-.inf", "-.Inf", "-.INF"].contains s then some (-Decimal.infinity)
  else if [".nan", ".NaN", ".NAN"].contains s then some Decimal.notANumber
  else if hasLeadingZero (Decimal.takeSign cs).2 then none
  else if cs.head? == some '+' && (word.startsWith "+" || word.startsWith "-") then none
  else (Decimal.readFloat? word).filter Decimal.isFinite

/-- The value that a plain scalar stands for; whole numbers of more than 64 bits, but not of
more than 128, are refused. -/
def plainValue (s : String) : Option Value :=
  if s.isEmpty || isNullWord s then some .null
  else match boolWord? s with
    | some b => some (.bool b)
    | none =>
      match whole? s with
      | some n =>
        if Decimal.fits64 n then some (.number (.whole n))
        else if fits128 n then none
        else (float? s).map (.number ∘ .float) |>.orElse fun _ => some (.string s)
      | none => (float? s).map (.number ∘ .float) |>.orElse fun _ => some (.string s)

/-- The value of a scalar of the standard vocabulary; under a name that is not known it is a
text. -/
def standardValue (name s : String) : Option Value :=
  match name with
  | "bool" => (boolWord? s).map .bool
  | "int" => ((whole? s).filter Decimal.fits64).map (.number ∘ .whole)
  | "float" => (float? s).map (.number ∘ .float)
  | "null" => if isNullWord s then some .null else none
  | _ => some (.string s)

/-- The value of a scalar, a tag of the document's own passed over. -/
def scalarValue (tag : Option String) (plain : Bool) (s : String) : Option Value :=
  match tag with
  | none => if plain then plainValue s else some (.string s)
  | some t =>
    match Text.stripStart? "tag:yaml.org,2002:" t with
    | some name => standardValue name s
    | none => if plain && t.startsWith "!" then plainValue s else some (.string s)

/-- The tag of the document's own that a node carries. -/
def ownTag? : Node → Option String
  | .scalar tag _ _ | .sequence tag _ | .mapping tag _ => tag.bind (Text.stripStart? "!")

/-! ### Values -/

namespace Value

mutual

/-- Equality of values, by which the keys of a mapping are told apart. -/
def same : Value → Value → Bool
  | .null, .null => true
  | .bool a, .bool b => a == b
  | .number (.whole a), .number (.whole b) => a == b
  | .number (.float a), .number (.float b) => a == b || (a.isNaN && b.isNaN)
  | .string a, .string b => a == b
  | .sequence as, .sequence bs => sameItems as bs
  | .mapping as, .mapping bs => samePairs as bs
  | .tagged s a, .tagged t b => s == t && same a b
  | _, _ => false

/-- Equality of lists of values. -/
def sameItems : List Value → List Value → Bool
  | [], [] => true
  | a :: as, b :: bs => same a b && sameItems as bs
  | _, _ => false

/-- Equality of lists of pairs. -/
def samePairs : List (Value × Value) → List (Value × Value) → Bool
  | [], [] => true
  | (j, a) :: as, (k, b) :: bs => same j k && same a b && samePairs as bs
  | _, _ => false

end

/-- Whether all keys of a list of pairs are different. -/
def distinctKeys : List (Value × Value) → Bool
  | [] => true
  | (key, _) :: rest => rest.all (fun p => !same key p.1) && distinctKeys rest

/-- The value of a node in which collections enclose one another at most `depth` times. The
keys of a mapping are different. -/
def ofNode? : Nat → Node → Option Value
  | depth, n =>
    let value : Option Value := match n, depth with
      | .scalar tag plain text, _ => scalarValue tag plain text
      | .sequence _ items, depth + 1 => (items.mapM (ofNode? depth)).map .sequence
      | .mapping _ pairs, depth + 1 => do
        let pairs ← pairs.mapM fun (k, v) => do return (← ofNode? depth k, ← ofNode? depth v)
        if distinctKeys pairs then some (.mapping pairs) else none
      | _, 0 => none
    match ownTag? n with
    | some tag => value.map (.tagged tag)
    | none => value

mutual

/-- A value in messages. -/
def describe : Value → String
  | .null => "Null"
  | .bool b => s!"Bool({b})"
  | .number n => s!"Number({n.text})"
  | .string s => s!"String({Text.quoted s})"
  | .sequence items => "Sequence " ++ Text.listed (describeItems items)
  | .mapping pairs => "Mapping \x7b" ++ Text.join ", " (describePairs pairs) ++ "\x7d"
  | .tagged tag value =>
    "TaggedValue \x7b tag: !" ++ tag ++ ", value: " ++ value.describe ++ " \x7d"

/-- The items of a sequence in messages. -/
def describeItems : List Value → List String
  | [] => []
  | v :: rest => v.describe :: describeItems rest

/-- The pairs of a mapping in messages. -/
def describePairs : List (Value × Value) → List String
  | [] => []
  | (k, v) :: rest => (k.describeKey ++ ": " ++ v.describe) :: describePairs rest

/-- A key in messages. -/
def describeKey : Value → String
  | .bool b => toString b
  | .number n => n.text
  | .string s => Text.quoted s
  | .null => "Null"
  | .sequence items => "Sequence " ++ Text.listed (describeItems items)
  | .mapping pairs => "Mapping \x7b" ++ Text.join ", " (describePairs pairs) ++ "\x7d"
  | .tagged tag value =>
    "TaggedValue \x7b tag: !" ++ tag ++ ", value: " ++ value.describe ++ " \x7d"

end

/-- A value as one of a list of allowed texts. -/
def text : Value → String
  | .string s => s
  | .bool b => toString b
  | .number n => n.text
  | .null => "null"
  | v => v.describe

end Value

/-! ### JSON -/

/-- The JSON of a scalar: infinities and not-a-number are `null`. -/
def jsonOfScalar? (tag : Option String) (plain : Bool) (s : String) : Option Json :=
  (scalarValue tag plain s).bind fun
    | .null => some .null
    | .bool b => some (.bool b)
    | .number (.whole n) => some (.int n)
    | .number (.float x) => some (Json.ofFloat x)
    | .string s => some (.str s)
    | _ => none

/-- The JSON of a node in which collections enclose one another at most `depth` times. Keys
are taken as text, and of the pairs of one key the last is kept. -/
def jsonOf? : Nat → Node → Option Json
  | depth, n =>
    if (ownTag? n).isSome then none
    else match n, depth with
      | .scalar tag plain text, _ => jsonOfScalar? tag plain text
      | .sequence _ items, depth + 1 => (items.mapM (jsonOf? depth)).map .arr
      | .mapping _ pairs, depth + 1 => do
        let members ← pairs.mapM fun (k, v) => do return (← k.text?, ← jsonOf? depth v)
        return Json.ofMembers members
      | _, 0 => none

end ApiContract.Yaml
