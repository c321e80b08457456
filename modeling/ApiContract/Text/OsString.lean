import ApiContract.Text.Blank
import ApiContract.Text.Utf8

/-!
# Names as a system has them

A file system names its entries by bytes. Most names are the bytes of a text, but none has to be.

## Main definitions

* `OsString` — the bytes of a name
* `OsString.text?` — the text of a name, if it is one
* `OsString.splitName` — a name cut before its last dot
-/

namespace ApiContract

/-- The bytes of a name. -/
structure OsString where
  bytes : List UInt8
  deriving DecidableEq, Repr

namespace OsString

/-- The name that a text is. -/
def ofText (s : String) : OsString := ⟨Utf8.encode s⟩

instance : Coe String OsString := ⟨ofText⟩

instance : LT OsString := ⟨fun a b => a.bytes < b.bytes⟩

instance : DecidableLT OsString := fun a b => inferInstanceAs (Decidable (a.bytes < b.bytes))

/-- The text of a name, if it is one. -/
def text? (name : OsString) : Option String :=
  Utf8.decode? name.bytes

/-- A name on a page, where replacement characters stand for what is no text. -/
def display (name : OsString) : String :=
  Utf8.decodeLossy name.bytes

/-- Whether a name starts with the bytes of a text. -/
def startsWith (name : OsString) (lead : String) : Bool :=
  (Text.dropLeading? (Utf8.encode lead) name.bytes).isSome

/-- The byte of a dot. -/
def dot : UInt8 := 0x2E

/-- The parts of a name before and after its last dot; a name without a dot, or with only one
that comes first, is one part. -/
def splitName (name : OsString) : OsString × Option OsString :=
  match (Text.pieces (· == dot) name.bytes).reverse with
  | last :: before :: more =>
    let stem := [dot].intercalate (before :: more).reverse
    if stem.isEmpty then (name, none) else (⟨stem⟩, some ⟨last⟩)
  | _ => (name, none)

end OsString

end ApiContract
