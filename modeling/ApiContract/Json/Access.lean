import ApiContract.Json.Value
import ApiContract.Text.Hex
import ApiContract.Text.Utf8

/-!
# Lenient access to JSON

What is absent or of another kind counts as `null`, as an empty text or list, or as none.

## Main definitions

* `Json.get`, `Json.given?` — a member, and one that is not `null`
* `Json.item` — an item by position
* `Json.text`, `Json.items`, `Json.nat?`, `Json.flag` — a value of some kind
* `Json.textAt` and the like — a member of some kind
-/

namespace ApiContract.Json

/-- A member. -/
def get (key : String) (j : Json) : Json := (j.member? key).getD .null

/-- A member that is not `null`. -/
def given? (key : String) (j : Json) : Option Json :=
  (j.member? key).filter fun v => !v.isNull

/-- The text of a string. -/
def text (j : Json) : String := j.asStr?.getD ""

/-- The items of an array. -/
def items (j : Json) : List Json := j.asArray?.getD []

/-- The texts in an array. -/
def texts (j : Json) : List String := j.items.map text

/-- An item of an array. -/
def item (i : Nat) (j : Json) : Json := j.items[i]?.getD .null

/-- A whole number that is not negative. -/
def nat? : Json → Option Nat
  | .int n => if 0 ≤ n then some n.toNat else none
  | _ => none

/-- Whether the value is `true`. -/
def flag (j : Json) : Bool := j.asBool?.getD false

/-- The text of a member. -/
def textAt (key : String) (j : Json) : String := (j.get key).text

/-- The text of a member, if it is one. -/
def textAt? (key : String) (j : Json) : Option String := (j.get key).asStr?

/-- The items of a member. -/
def itemsAt (key : String) (j : Json) : List Json := (j.get key).items

/-- The texts of a member. -/
def textsAt (key : String) (j : Json) : List String := (j.get key).texts

/-- The number of a member. -/
def natAt? (key : String) (j : Json) : Option Nat := (j.get key).nat?

/-- Whether a member is `true`. -/
def flagAt (key : String) (j : Json) : Bool := (j.get key).flag

/-- The text of an item. -/
def word (i : Nat) (j : Json) : String := (j.item i).text

/-- Pairs of texts in a member. -/
def pairsAt (key : String) (j : Json) : List (String × String) :=
  (j.itemsAt key).map fun p => (p.word 0, p.word 1)

/-- A body, given as text or as hexadecimal digits. -/
def bodyBytes (j : Json) : List UInt8 :=
  match j.textAt? "body" with
  | some s => Utf8.encode s
  | none => ((j.textAt? "body_hex").bind Hex.toBytes?).getD []

end ApiContract.Json
