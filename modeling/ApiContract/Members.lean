/-!
# Members

A finite map is a list of pairs whose keys increase; texts do so in the order of code points.
Objects, the slots of an instance, query parameters, uploaded files and the entries of a
directory are such lists, so that two of them with the same members are equal.

## Main definitions

* `Members.lookup`, `Members.insert`, `Members.erase` — members by key
* `Members.ofList` — members from pairs in any order, the last of a repeated key kept
* `Members.put` — the other order: a new key goes to the end
-/

namespace ApiContract.Members

variable {κ α β : Type}

/-- The keys in order. -/
def keys (members : List (κ × α)) : List κ :=
  members.map Prod.fst

section Keys

variable [DecidableEq κ]

/-- The member of a key. -/
def lookup (key : κ) : List (κ × α) → Option α
  | [] => none
  | (k, v) :: rest => if k = key then some v else lookup key rest

/-- Whether a key has a member. -/
def contains (key : κ) (members : List (κ × α)) : Bool :=
  (lookup key members).isSome

variable [LT κ] [DecidableLT κ]

/-- Members with increasing keys, with one added or replaced. -/
def insert (key : κ) (value : α) : List (κ × α) → List (κ × α)
  | [] => [(key, value)]
  | (k, v) :: rest =>
    if key < k then (key, value) :: (k, v) :: rest
    else if k = key then (key, value) :: rest
    else (k, v) :: insert key value rest

/-- Members with increasing keys, with one added unless its key is taken. -/
def insertNew (key : κ) (value : α) (members : List (κ × α)) : List (κ × α) :=
  if contains key members then members else insert key value members

/-- Members with increasing keys; of the pairs of one key the last is kept. -/
def ofList (pairs : List (κ × α)) : List (κ × α) :=
  pairs.foldl (fun members p => insert p.1 p.2 members) []

end Keys

/-- Members without those of a key. -/
def erase (key : String) : List (String × α) → List (String × α)
  | [] => []
  | (k, v) :: rest => if k = key then erase key rest else (k, v) :: erase key rest

/-- Pairs in order of first appearance, with one replaced in its place or added at the
end. -/
def put (key : String) (value : α) : List (String × α) → List (String × α)
  | [] => [(key, value)]
  | (k, v) :: rest => if k = key then (key, value) :: rest else (k, v) :: put key value rest

/-- Pairs in order of first appearance; of the pairs of one key the last value is kept. -/
def putAll (pairs : List (String × α)) : List (String × α) :=
  pairs.foldl (fun members p => put p.1 p.2 members) []

/-- Texts in increasing order, each once. -/
def sortTexts (texts : List String) : List String :=
  keys (ofList (texts.map fun t => (t, ())))

/-- Texts in order of first appearance, each once. -/
def distinct (texts : List String) : List String :=
  keys (putAll (texts.map fun t => (t, ())))

end ApiContract.Members
