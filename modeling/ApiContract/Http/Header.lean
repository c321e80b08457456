import ApiContract.Text.Blank
import ApiContract.Text.Utf8

/-!
# Headers

A header has a name, in small letters, and a value of bytes. A name may occur several times.

## Main definitions

* `Http.isToken` — the texts that may be methods or header names
* `Headers` — headers in order
* `Headers.text?` — the first value of a name, if it can be read as text
-/

namespace ApiContract

namespace Http

/-- Whether a character may occur in a method or in a header's name. -/
def isTokenChar (c : Char) : Bool :=
  c.isAlphanum || "!#$%&'*+-.^_|~\x60".contains c

/-- Whether a text may be a method or a header's name. -/
def isToken (s : String) : Bool :=
  !s.isEmpty && s.all isTokenChar

/-- The name of a header, in small letters. -/
def headerName? (s : String) : Option String :=
  if isToken s then some (Text.lowerAscii s) else none

/-- Whether bytes may be the value of a header: there is no control but the tab. -/
def isHeaderValue (bytes : List UInt8) : Bool :=
  bytes.all fun b => (0x20 ≤ b && b ≠ 0x7F) || b == 0x09

/-- The text of a header's value, if all of it is visible ASCII. -/
def visible? (bytes : List UInt8) : Option String :=
  if bytes.all fun b => (0x20 ≤ b && b < 0x7F) || b == 0x09 then Utf8.decode? bytes else none

end Http

/-- Headers by name, in order. -/
abbrev Headers := List (String × List UInt8)

namespace Headers

/-- The first value of a name. -/
def get? (headers : Headers) (name : String) : Option (List UInt8) :=
  List.lookup (Text.lowerAscii name) headers

/-- The first value of a name, if it can be read as text. -/
def text? (headers : Headers) (name : String) : Option String :=
  (headers.get? name).bind Http.visible?

/-- Headers with one more. -/
def append (headers : Headers) (name value : String) : Headers :=
  headers ++ [(name, Utf8.encode value)]

/-- Headers with one in place of all others of its name. -/
def set (headers : Headers) (name value : String) : Headers :=
  Headers.append (headers.filter fun h => h.1 ≠ name) name value

/-- Headers with one added, unless its name or its value is none. -/
def append? (headers : Headers) (name value : String) : Option Headers := do
  let name ← Http.headerName? name
  if Http.isHeaderValue (Utf8.encode value) then some (headers.append name value) else none

end Headers

end ApiContract
