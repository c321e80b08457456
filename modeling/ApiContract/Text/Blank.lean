/-!
# Blank characters

Text read from a request or a document is trimmed of blank characters, which are
the characters with the Unicode property `White_Space`.

## Main definitions

* `Text.isBlank` — the property `White_Space`
* `Text.trim` — text without the blanks at either end
* `Text.splitOnce` — the parts before and after the first occurrence of a character
-/

namespace ApiContract.Text

/-- The Unicode property `White_Space`: the six ASCII blanks, next line, the no-break
space, the Ogham mark, the typographic spaces, the two separators and the ideographic
space. -/
def isBlank (c : Char) : Bool :=
  let n := c.toNat
  (0x09 ≤ n && n ≤ 0x0D) || n == 0x20 || n == 0x85 || n == 0xA0 || n == 0x1680 ||
    (0x2000 ≤ n && n ≤ 0x200A) || n == 0x2028 || n == 0x2029 || n == 0x202F ||
    n == 0x205F || n == 0x3000

/-- The characters between the first and the last that is not blank. -/
def trimChars (cs : List Char) : List Char :=
  ((cs.dropWhile isBlank).reverse.dropWhile isBlank).reverse

/-- Text without the blanks at either end. -/
def trim (s : String) : String :=
  String.ofList (trimChars s.toList)

/-- Text without its trailing occurrences of `c`. -/
def dropTrailing (c : Char) (s : String) : String :=
  String.ofList (s.toList.reverse.dropWhile (· == c)).reverse

/-- Text without the occurrences of `c` at either end. -/
def dropAround (c : Char) (s : String) : String :=
  dropTrailing c (String.ofList (s.toList.dropWhile (· == c)))

/-- The pieces of a list between the elements that satisfy `p`; a list without such an
element is one piece. -/
def pieces {α : Type} (p : α → Bool) : List α → List (List α)
  | [] => [[]]
  | a :: rest =>
    if p a then [] :: pieces p rest
    else match pieces p rest with
      | [] => [[a]]
      | piece :: more => (a :: piece) :: more

/-- The pieces of a text between the occurrences of a character. -/
def split (s : String) (c : Char) : List String :=
  (pieces (· == c) s.toList).map String.ofList

/-- The characters before and after the first one that satisfies `p`. -/
def breakOnce (p : Char → Bool) (cs : List Char) : Option (List Char × List Char) :=
  match cs.dropWhile (fun c => !p c) with
  | [] => none
  | _ :: rest => some (cs.takeWhile (fun c => !p c), rest)

/-- The parts before and after the first occurrence of `c`. -/
def splitOnce (s : String) (c : Char) : Option (String × String) :=
  (breakOnce (· == c) s.toList).map fun p => (String.ofList p.1, String.ofList p.2)

/-- What remains of a list after a leading segment, if it starts with it. -/
def dropLeading? {α : Type} [BEq α] : List α → List α → Option (List α)
  | [], xs => some xs
  | _ :: _, [] => none
  | p :: ps, x :: xs => if p == x then dropLeading? ps xs else none

/-- What remains of a text after a leading text, if it starts with it. -/
def stripStart? (lead s : String) : Option String :=
  (dropLeading? lead.toList s.toList).map String.ofList

/-- What remains of a text before a trailing text, if it ends with it. -/
def stripEnd? (trail s : String) : Option String :=
  (dropLeading? trail.toList.reverse s.toList.reverse).map fun cs => String.ofList cs.reverse

/-- Whether a text starts with another. -/
def startsWith (s lead : String) : Bool :=
  (stripStart? lead s).isSome

/-- Whether a text ends with another. -/
def endsWith (s trail : String) : Bool :=
  (stripEnd? trail s).isSome

/-- ASCII capitals become small letters; every other character stays. -/
def lowerAscii (s : String) : String :=
  String.ofList (s.toList.map Char.toLower)

/-- ASCII small letters become capitals; every other character stays. -/
def upperAscii (s : String) : String :=
  String.ofList (s.toList.map Char.toUpper)

/-- Equality that does not tell ASCII capitals from small letters. -/
def eqIgnoreCase (s t : String) : Bool :=
  lowerAscii s == lowerAscii t

/-- The texts in turn, with a separator between neighbours. -/
def join (separator : String) (texts : List String) : String :=
  separator.intercalate texts

end ApiContract.Text
