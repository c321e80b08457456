import ApiContract.Json.Value

/-!
# Tables of a TOML document

A table comes into being under a header, between the keys of a header or a dotted key, or as
an item of an array of tables. How it came into being decides what may still be added to it.

## Main definitions

* `Toml.Item` — a value, a table or an array of tables
* `Toml.Table.assign?` — a table with one more value, below a dotted key
* `Toml.Table.open?`, `Toml.Table.append?` — a table with one more header
* `Toml.Table.at?` — a change made to the table that a header leads to
-/

namespace ApiContract.Toml

/-- How a table came into being. -/
inductive Origin where
  /-- It has a header of its own, or is an item of an array of tables. -/
  | header
  /-- It lies on the way to a table with a header. -/
  | passed
  /-- It lies on the way of a dotted key. -/
  | dotted
  deriving DecidableEq, Repr

/-- What a key of a table leads to. -/
inductive Item where
  | value (j : Json)
  | table (origin : Origin) (entries : List (String × Item))
  | tables (items : List (List (String × Item)))

/-- The entries of a table. -/
abbrev Table := List (String × Item)

namespace Table

/-- The JSON of entries. -/
def jsonOfEntries (item : Item → Json) (t : Table) : Json :=
  Json.ofMembers (t.map fun (key, i) => (key, item i))

end Table

/-- The JSON of an item in which tables enclose one another at most so many times. -/
def Item.toJson : Nat → Item → Json
  | _, .value j => j
  | 0, _ => .null
  | depth + 1, .table _ entries => Table.jsonOfEntries (toJson depth) entries
  | depth + 1, .tables items => .arr (items.map (Table.jsonOfEntries (toJson depth)))

namespace Table

/-- The JSON of a table in which tables enclose one another at most so many times. -/
def toJson (depth : Nat) (t : Table) : Json := jsonOfEntries (Item.toJson depth) t

/-- Changes the table below a path and yields the whole. Tables that are missing on the way
are made; of an array of tables the last is entered. A dotted key does not enter a table with
a header. -/
def at? (dotted : Bool) (change : Origin → Table → Option Table) :
    List String → Origin → Table → Option Table
  | [], origin, t => change origin t
  | key :: rest, _, t =>
    match Members.lookup key t with
    | none => do
      let made := if dotted then Origin.dotted else .passed
      return Members.insert key (.table made (← at? dotted change rest made [])) t
    | some (.value _) => none
    | some (.table origin entries) => do
      if dotted && origin = .header then none
      else return Members.insert key (.table origin (← at? dotted change rest origin entries)) t
    | some (.tables items) =>
      match items.reverse with
      | [] => none
      | last :: before => do
        let changed ← at? dotted change rest .header last
        return Members.insert key (.tables (changed :: before).reverse) t

/-- A table with a value below a dotted key. The key must be new, and a table on the way of a
dotted key must have come from dotted keys alone. -/
def assign? (path : List String) (key : String) (j : Json) (t : Table) : Option Table :=
  at? true (fun origin t =>
    if (!path.isEmpty && origin ≠ .dotted) || Members.contains key t then none
    else some (Members.insert key (.value j) t)) path .header t

/-- A table in which a header opens another. The table may exist only if it was passed on the
way to one of its own tables. -/
def open? (path : List String) (key : String) (t : Table) : Option Table :=
  at? false (fun _ t =>
    match Members.lookup key t with
    | none => some (Members.insert key (.table .header []) t)
    | some (.table .passed entries) => some (Members.insert key (.table .header entries) t)
    | some _ => none) path .header t

/-- A table in which a header adds an empty table to an array of tables. -/
def append? (path : List String) (key : String) (t : Table) : Option Table :=
  at? false (fun _ t =>
    match Members.lookup key t with
    | none => some (Members.insert key (.tables [[]]) t)
    | some (.tables items) => some (Members.insert key (.tables (items ++ [[]])) t)
    | some _ => none) path .header t

end Table

end ApiContract.Toml
