import ApiContract.Members
import ApiContract.Yaml.Value

/-!
# Records in YAML

A record is a mapping whose known keys each occur at most once; its other keys are passed
over. A table is a mapping from names; of the pairs of one name the last is kept, in the
place of the first.

## Main definitions

* `Yaml.record?`, `Yaml.table?` — the members of a mapping
* `Yaml.optional?`, `Yaml.defaulted?` — members that may be missing
-/

namespace ApiContract.Yaml

/-- Whether a node stands for nothing where something may be left out. -/
def isMissing : Node → Bool
  | .scalar none plain text => plain && (text.isEmpty || isNullWord text)
  | .scalar (some tag) plain text => plain && tag == "tag:yaml.org,2002:null" && isNullWord text
  | _ => false

/-- The members of a mapping whose keys are scalars. -/
def members? (n : Node) : Option (List (String × Node)) := do
  (← n.pairs?).mapM fun (k, v) => do return (← k.text?, v)

/-- The members of a record that are known. -/
def record? (known : List String) (n : Node) : Option (List (String × Node)) := do
  let members := (← members? n).filter fun m => known.contains m.1
  if (Members.keys members).Nodup then some members else none

/-- The members of a table, each read. -/
def table? {α : Type} (read : Node → Option α) (n : Node) : Option (List (String × α)) := do
  let members ← (← members? n).mapM fun (k, v) => do return (k, ← read v)
  return Members.putAll members

/-- The items of a sequence, each read. -/
def list? {α : Type} (read : Node → Option α) (n : Node) : Option (List α) := do
  (← n.items?).mapM read

/-- A boolean. -/
def bool? : Node → Option Bool
  | .scalar _ plain text => if plain then boolWord? text else none
  | _ => none

/-- A member that must be there. -/
def required? {α : Type} (key : String) (members : List (String × Node))
    (read : Node → Option α) : Option α :=
  (Members.lookup key members).bind read

/-- A member that may be missing, or stand for nothing. -/
def optional? {α : Type} (key : String) (members : List (String × Node))
    (read : Node → Option α) : Option (Option α) :=
  match Members.lookup key members with
  | none => some none
  | some n => if isMissing n then some none else (read n).map some

/-- A member that may be missing, in which case it has a default. -/
def defaulted? {α : Type} (key : String) (members : List (String × Node)) (default : α)
    (read : Node → Option α) : Option α :=
  match Members.lookup key members with
  | none => some default
  | some n => read n

end ApiContract.Yaml
