import ApiContract.Http.Header

/-!
# Media types

The type of a body has two parts and parameters, as in `text/plain; charset=utf-8`. What
follows a plus sign in the second part names a format that it builds upon.

## Main definitions

* `MediaType` — the parts of a media type
* `MediaType.read?` — the parts of a header's value
-/

namespace ApiContract

/-- The parts of a media type, in small letters; the values of its parameters are kept as
written. -/
structure MediaType where
  type : String
  subtype : String
  params : List (String × String) := []
  deriving DecidableEq, Repr

namespace MediaType

/-- The value of a parameter up to the next semicolon, and the text after that. A quoted
value has at least one character, which may itself be a quote. -/
def readValue : List Char → Option (List Char × List Char)
  | ['"'] => none
  | '"' :: first :: rest =>
    let value := first :: rest.takeWhile (· ≠ '"')
    let isAllowed (c : Char) : Bool := 0x20 ≤ c.toNat && c.toNat ≠ 0x7F
    match rest.dropWhile (· ≠ '"') with
    | [] => none
    | _ :: after =>
      if !value.all isAllowed then none
      else match after.dropWhile (· == ' ') with
        | [] => some (value, [])
        | ';' :: more => some (value, more)
        | _ => none
  | cs =>
    let value := cs.takeWhile Http.isTokenChar
    match cs.dropWhile Http.isTokenChar with
    | [] => some (value, [])
    | ';' :: more => if value.isEmpty then none else some (value, more)
    | _ => none

/-- The parameters of a text, at most `fuel` of them. -/
def readParams : Nat → List Char → Option (List (String × String))
  | 0, _ => none
  | fuel + 1, cs =>
    match cs.dropWhile (· == ' ') with
    | [] => some []
    | cs =>
      let name := cs.takeWhile Http.isTokenChar
      match cs.dropWhile Http.isTokenChar with
      | '=' :: rest =>
        if name.isEmpty then none
        else do
          let (value, rest) ← readValue rest
          let more ← readParams fuel rest
          return (Text.lowerAscii (String.ofList name), String.ofList value) :: more
      | _ => none

/-- A subtype without the format that it builds upon. -/
def withoutSuffix (subtype : List Char) : List Char :=
  match subtype with
  | [] => []
  | first :: rest =>
    match rest.reverse.dropWhile (· ≠ '+') with
    | [] => first :: rest
    | _ :: before => first :: before.reverse

/-- The parts of a header's value. -/
def read? (s : String) : Option MediaType := do
  let cs := s.toList
  let type := cs.takeWhile Http.isTokenChar
  match cs.dropWhile Http.isTokenChar with
  | '/' :: rest =>
    let subtype := rest.takeWhile Http.isTokenChar
    if type.isEmpty then none
    else
      let lower (cs : List Char) : String := Text.lowerAscii (String.ofList cs)
      let whole : MediaType := { type := lower type, subtype := lower (withoutSuffix subtype) }
      match rest.dropWhile Http.isTokenChar with
      | [] => some whole
      | ';' :: more =>
        if subtype.isEmpty then none
        else return { whole with params := ← readParams (more.length + 1) more }
      | _ => none
  | _ => none

/-- The value of the first parameter of a name. -/
def param? (m : MediaType) (name : String) : Option String :=
  m.params.lookup name

end MediaType

end ApiContract
