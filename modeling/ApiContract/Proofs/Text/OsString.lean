import ApiContract.Path
import ApiContract.Proofs.Text.Split
import ApiContract.Proofs.Text.Utf8
import ApiContract.Text.OsString

/-!
# Names that are texts

What is asked of a name by its bytes is asked of the text that it is, when it is one: no
character but the dot itself has the byte of a dot, and bytes start with those of a text only if
the text does.

## Main results

* `OsString.text?_eq_some_iff` — the text of a name is the one whose bytes it has
* `OsString.startsWith_ofText` — what the name of a text starts with
* `OsString.splitName_ofText` — where the name of a text is cut
-/

namespace ApiContract.OsString

variable {name : OsString} {s t : String}

@[simp] theorem text?_ofText (s : String) : (ofText s).text? = some s :=
  Utf8.decode?_encode s

theorem text?_eq_some_iff : name.text? = some s ↔ name = ofText s := by
  obtain ⟨bytes⟩ := name
  rw [text?, Utf8.decode?_eq_some_iff, ofText, mk.injEq, eq_comm]

theorem ofText_injective : Function.Injective ofText := by
  intro s t same
  exact Utf8.encode_injective (OsString.mk.inj same)

@[simp] theorem ofText_inj : ofText s = ofText t ↔ s = t :=
  ofText_injective.eq_iff

/-- The name of a text starts with the bytes of another text when the text does. -/
theorem startsWith_ofText (s lead : String) :
    (ofText s).startsWith lead = Text.startsWith s lead := by
  rw [Bool.eq_iff_iff, startsWith, Text.startsWith, Option.isSome_iff_exists,
    Option.isSome_iff_exists]
  simp only [Text.dropLeading?_eq_some_iff, Text.stripStart?_eq_some_iff]
  constructor
  · rintro ⟨tail, same⟩
    obtain ⟨rest, whole⟩ := Utf8.exists_of_flatMap_encodeChar same
    refine ⟨String.ofList rest, String.toList_injective ?_⟩
    rw [whole, String.toList_append, String.toList_ofList]
  · rintro ⟨rest, rfl⟩
    exact ⟨Utf8.encode rest, Utf8.encode_append lead rest⟩

/-! ### Cutting at dots -/

/-- The bytes of a character in front belong to the first piece, unless it is a dot. -/
theorem pieces_encodeChar_append {c : Char} (other : c ≠ '.') {bytes first : List UInt8}
    {more : List (List UInt8)} (cut : Text.pieces (· == dot) bytes = first :: more) :
    Text.pieces (· == dot) (String.utf8EncodeChar c ++ bytes) =
      (String.utf8EncodeChar c ++ first) :: more := by
  have plain : ∀ b ∈ String.utf8EncodeChar c, (b == dot) = false := by
    intro b member
    rw [beq_eq_false_iff_ne]
    rintro rfl
    rcases Utf8.toNat_of_mem_encodeChar member with same | large
    · exact other (Char.toNat_inj.mp same)
    · exact absurd large (by decide)
  generalize String.utf8EncodeChar c = front at plain ⊢
  induction front with
  | nil => exact cut
  | cons b rest ih =>
    rw [List.forall_mem_cons] at plain
    exact Text.pieces_cons_of_not (p := (· == dot)) plain.1 (ih plain.2)

/-- The bytes of a text are cut at their dots where the text is. -/
theorem pieces_encode (s : String) :
    Text.pieces (· == dot) (Utf8.encode s) = (Text.split s '.').map Utf8.encode := by
  have chars : ∀ cs : List Char, Text.pieces (· == dot) (cs.flatMap String.utf8EncodeChar) =
      (Text.pieces (· == '.') cs).map fun piece => piece.flatMap String.utf8EncodeChar := by
    intro cs
    induction cs with
    | nil => rfl
    | cons c rest ih =>
      rw [List.flatMap_cons]
      by_cases separator : c = '.'
      · subst separator
        have byte : String.utf8EncodeChar '.' = [dot] := by decide
        rw [byte, List.singleton_append, Text.pieces, Text.pieces, ih]
        rfl
      · cases cut : Text.pieces (· == '.') rest with
        | nil => exact absurd cut (Text.pieces_ne_nil _ _)
        | cons first more =>
          rw [cut, List.map_cons] at ih
          rw [Text.pieces_cons_of_not (by simpa using separator) cut, List.map_cons,
            List.flatMap_cons]
          exact pieces_encodeChar_append separator ih
  rw [Utf8.encode, chars, Text.split, List.map_map]
  exact List.map_congr_left fun piece _ => by simp [Utf8.encode]

/-- The bytes of joined texts are the joined bytes. -/
theorem encode_join (separator : String) (texts : List String) :
    Utf8.encode (Text.join separator texts) =
      (Utf8.encode separator).intercalate (texts.map Utf8.encode) := by
  have chars : ∀ parts : List (List Char),
      (separator.toList.intercalate parts).flatMap String.utf8EncodeChar =
        (Utf8.encode separator).intercalate
          (parts.map fun part => part.flatMap String.utf8EncodeChar) := by
    intro parts
    induction parts with
    | nil => rfl
    | cons first more ih =>
      cases more with
      | nil => simp
      | cons second others =>
        rw [List.intercalate_cons_cons, List.flatMap_append, List.flatMap_append, ih]
        exact List.intercalate_cons_cons.symm
  rw [Text.join, Utf8.encode, String.toList_intercalate, chars, List.map_map]
  rfl

theorem isEmpty_encode (s : String) : (Utf8.encode s).isEmpty = s.isEmpty := by
  rw [Bool.eq_iff_iff, List.isEmpty_iff, String.isEmpty_iff, ← Utf8.encode_injective.eq_iff]
  rfl

/-- The name of a text is cut before the last dot of the text. -/
theorem splitName_ofText (s : String) : (ofText s).splitName =
    (ofText (Path.splitName s).1, (Path.splitName s).2.map ofText) := by
  have joined := fun parts => encode_join "." parts
  have byte : Utf8.encode "." = [dot] := by decide
  rw [splitName, Path.splitName, ofText, pieces_encode, ← List.map_reverse]
  cases (Text.split s '.').reverse with
  | nil => rfl
  | cons last front =>
    cases front with
    | nil => rfl
    | cons before more =>
      have stem : [dot].intercalate ((before :: more).map Utf8.encode).reverse =
          Utf8.encode (Text.join "." (before :: more).reverse) := by
        rw [joined, byte, List.map_reverse]
      rw [List.map_cons, List.map_cons]
      dsimp only
      rw [← List.map_cons, stem, isEmpty_encode]
      split <;> rfl

end ApiContract.OsString
