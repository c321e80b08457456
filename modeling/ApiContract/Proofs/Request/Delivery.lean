import Mathlib.Data.List.Infix
import ApiContract.Proofs.Text.Split
import ApiContract.Proofs.Text.Utf8
import ApiContract.Request.Multipart

/-!
# Delivering the parts of a body

A client writes the parts of a body one after another, each with a header that names it, and
puts a boundary before the first and after each. Unless the boundary occurs within a content,
the parts are delivered as they were written and in their order.

## Main definitions

* `Part.Written` — a part by the value of its header and its content
* `Part.Written.Fits` — a part that can stand between two boundaries
* `Part.Written.body` — the body of such parts

## Main results

* `Parts.eq_of_splitAt?` — nothing is lost where bytes are split
* `Parts.splitAt?_of_not_mem`, `Parts.splitAt?_of_not_isInfix` — where bytes are split
* `Parts.ofBody_written` — the parts of a body are delivered
-/

namespace ApiContract

/-! ### Splitting at a pattern -/

namespace Parts

section Split

variable {pattern bytes before after xs ys : List UInt8} {a : UInt8}

/-- The pattern stands where bytes are split, between what is before and what is after. -/
theorem eq_of_splitAt? (found : splitAt? pattern bytes = some (before, after)) :
    bytes = before ++ pattern ++ after := by
  induction bytes generalizing before with
  | nil =>
    rw [splitAt?] at found
    obtain ⟨empty, same⟩ := Option.ite_none_right_eq_some.mp found
    obtain ⟨rfl, rfl⟩ := Prod.mk.inj (Option.some.inj same)
    simpa using empty
  | cons b rest ih =>
    rw [splitAt?] at found
    cases here : Text.dropLeading? pattern (b :: rest) with
    | some left =>
      rw [here] at found
      obtain ⟨rfl, rfl⟩ := Prod.mk.inj (Option.some.inj found)
      exact Text.dropLeading?_eq_some_iff.mp here
    | none =>
      rw [here] at found
      obtain ⟨⟨first, last⟩, later, same⟩ := Option.map_eq_some_iff.mp found
      obtain ⟨rfl, rfl⟩ := Prod.mk.inj same
      rw [ih later, List.cons_append, List.cons_append]

/-- Bytes that begin with the pattern are split there. -/
theorem splitAt?_append (pattern ys : List UInt8) (nonempty : pattern ≠ []) :
    splitAt? pattern (pattern ++ ys) = some ([], ys) := by
  obtain ⟨b, more, rfl⟩ := List.exists_cons_of_ne_nil nonempty
  rw [List.cons_append, splitAt?, Text.dropLeading?_eq_some_iff.mpr (List.cons_append ..).symm]

/-- Where the pattern does not begin, the bytes after the first are split. -/
theorem splitAt?_cons (absent : ¬ pattern <+: a :: xs) :
    splitAt? pattern (a :: xs) = (splitAt? pattern xs).map fun p => (a :: p.1, p.2) := by
  have here : Text.dropLeading? pattern (a :: xs) = none := by
    rw [Option.eq_none_iff_forall_ne_some]
    exact fun rest found => absent ⟨rest, (Text.dropLeading?_eq_some_iff.mp found).symm⟩
  rw [splitAt?, here]

/-- Bytes are split at the first byte of the pattern when it is not found before. -/
theorem splitAt?_of_not_mem (absent : a ∉ xs) (more ys : List UInt8) :
    splitAt? (a :: more) (xs ++ (a :: more ++ ys)) = some (xs, ys) := by
  induction xs with
  | nil => exact splitAt?_append _ _ (List.cons_ne_nil _ _)
  | cons x rest ih =>
    rw [List.mem_cons, not_or] at absent
    have differ : ¬ a :: more <+: x :: (rest ++ (a :: more ++ ys)) :=
      fun first => absent.1 (List.cons_prefix_cons.mp first).1
    rw [List.cons_append, splitAt?_cons differ, ih absent.2]
    rfl

/-- Bytes are split at a pattern that is not found before its own last byte. -/
theorem splitAt?_of_not_isInfix (nonempty : pattern ≠ [])
    (absent : ¬ pattern <:+: xs ++ pattern.dropLast) (ys : List UInt8) :
    splitAt? pattern (xs ++ (pattern ++ ys)) = some (xs, ys) := by
  induction xs with
  | nil => exact splitAt?_append _ _ nonempty
  | cons x rest ih =>
    have differ : ¬ pattern <+: x :: (rest ++ (pattern ++ ys)) := by
      intro first
      apply absent
      -- The pattern is no longer than these bytes, so it would be found among them.
      have short : pattern.length ≤ (x :: rest ++ pattern.dropLast).length := by
        simp
        omega
      have within : x :: rest ++ pattern.dropLast <+: x :: (rest ++ (pattern ++ ys)) := by
        rw [← List.cons_append, ← List.append_assoc]
        exact ((List.prefix_append_right_inj _).mpr pattern.dropLast_prefix).trans
          (List.prefix_append _ _)
      exact (List.prefix_of_prefix_length_le first within short).isInfix
    have later : ¬ pattern <:+: rest ++ pattern.dropLast :=
      fun inside => absent (inside.trans (List.suffix_cons _ _).isInfix)
    rw [List.cons_append, splitAt?_cons differ, ih later]
    rfl

end Split

end Parts

/-! ### Written parts -/

/-- A part as it is written: the value of the header that names it, and its content. -/
structure Part.Written where
  disposition : List UInt8
  content : List UInt8

namespace Part.Written

/-- The part that is written: its header says how it is called and whether it is a file. -/
def part (w : Written) : Part :=
  let (name, isFile) := Parts.disposition [("content-disposition", w.disposition)]
  { name, isFile, content := w.content }

/-- The line of the header. -/
def line (w : Written) : List UInt8 :=
  Utf8.encode "Content-Disposition" ++ (0x3A :: 0x20 :: w.disposition)

/-- What ends the content of a part. -/
def delimiter (boundary : List UInt8) : List UInt8 :=
  Parts.lineEnd ++ Parts.hyphens ++ boundary

/-- What comes after a boundary: a part with the boundary after it, or two hyphens. -/
def bytes (boundary : List UInt8) : List Written → List UInt8
  | [] => Parts.hyphens ++ Parts.lineEnd
  | w :: rest =>
    Parts.lineEnd ++ (w.line ++ (Parts.lineEnd ++ Parts.lineEnd ++
      (w.content ++ (delimiter boundary ++ bytes boundary rest))))

/-- A body of parts. -/
def body (boundary : String) (ws : List Written) : List UInt8 :=
  Parts.hyphens ++ Utf8.encode boundary ++ bytes (Utf8.encode boundary) ws

/-- A part that can stand between two boundaries: the value of its header has no controls and no
gap at either end, and the boundary after its content is the first one there. -/
@[mk_iff]
structure Fits (boundary : List UInt8) (w : Written) : Prop where
  clean : w.disposition.all Parts.isValueByte
  front : w.disposition.dropWhile Parts.isGap = w.disposition
  back : w.disposition.reverse.dropWhile Parts.isGap = w.disposition.reverse
  closed : ¬ delimiter boundary <:+: w.content ++ (delimiter boundary).dropLast

instance (boundary : List UInt8) (w : Written) : Decidable (w.Fits boundary) :=
  decidable_of_iff' _ (fits_iff boundary w)

variable {boundary : List UInt8} {w : Written} {ws : List Written}

/-- A byte that no header's value has does not occur in its line. -/
theorem not_mem_line (fits : w.Fits boundary) {b : UInt8} (other : Parts.isValueByte b = false)
    (absent : b ∉ Utf8.encode "Content-Disposition") (colon : b ≠ 0x3A) (gap : b ≠ 0x20) :
    b ∉ w.line := by
  rw [line, List.mem_append, List.mem_cons, List.mem_cons]
  rintro (there | here | here | inside)
  · exact absent there
  · exact colon here
  · exact gap here
  · have clean := List.all_eq_true.mp fits.clean b inside
    rw [other] at clean
    cases clean

/-- The header is read as it was written. -/
theorem headers?_line (fits : w.Fits boundary) :
    Parts.headers? w.line = some [("content-disposition", w.disposition)] := by
  have unbroken : (0x0A : UInt8) ∉ w.line :=
    not_mem_line fits (by decide) (by decide) (by decide) (by decide)
  have last : w.line.getLast? ≠ some 0x0D := fun ends =>
    not_mem_line fits (by decide) (by decide) (by decide) (by decide)
      (List.mem_of_getLast? ends)
  have lines : Parts.lines w.line = [w.line] := by
    rw [Parts.lines, Text.pieces_plain (Text.beq_eq_false_of_not_mem unbroken)]
    simp [last]
  have key : w.line.takeWhile (· != 0x3A) = Utf8.encode "Content-Disposition" := rfl
  have value : w.line.dropWhile (· != 0x3A) = 0x3A :: 0x20 :: w.disposition := rfl
  have name : Http.headerName? "Content-Disposition" = some "content-disposition" := by
    simp [Http.headerName?, Http.isToken, Http.isTokenChar, Text.lowerAscii]
  have trimmed : (0x20 :: w.disposition).dropWhile Parts.isGap = w.disposition := fits.front
  have nonempty : [w.line].takeWhile (fun line => !line.isEmpty) = [w.line] := rfl
  rw [Parts.headers?, lines, nonempty, Parts.readHeaders, List.mapM_cons, key, value,
    Utf8.decode?_encode]
  simp [Parts.maxHeaders, name, trimmed, fits.back, fits.clean]

end Part.Written

namespace Parts

variable {boundary : List UInt8} {w : Part.Written} {ws : List Part.Written}

/-- A written part is delivered first, and what comes after it then. -/
theorem afterBoundary_cons (fits : w.Fits boundary) (fuel : Nat) :
    afterBoundary boundary (fuel + 1) (Part.Written.bytes boundary (w :: ws)) =
      .part w.part (afterBoundary boundary fuel (Part.Written.bytes boundary ws)) := by
  -- The block of headers has one line, as the line has no carriage return.
  have unended : (0x0D : UInt8) ∉ w.line :=
    Part.Written.not_mem_line fits (by decide) (by decide) (by decide) (by decide)
  have split (after : List UInt8) :
      splitAt? (lineEnd ++ lineEnd) (w.line ++ (lineEnd ++ lineEnd ++ after)) =
        some (w.line, after) :=
    splitAt?_of_not_mem unended _ _
  -- The content may have carriage returns, and ends only where the boundary stands.
  have closed : splitAt? (lineEnd ++ hyphens ++ boundary)
      (w.content ++ (Part.Written.delimiter boundary ++ Part.Written.bytes boundary ws)) =
        some (w.content, Part.Written.bytes boundary ws) :=
    splitAt?_of_not_isInfix (List.cons_ne_nil _ _) fits.closed _
  have ended (rest : List UInt8) :
      Text.dropLeading? lineEnd ((lineEnd ++ rest).dropWhile isGap) = some rest :=
    Text.dropLeading?_eq_some_iff.mpr rfl
  have long (rest : List UInt8) : ¬ (lineEnd ++ rest).length < 2 := by
    simp [lineEnd]
  have more (rest : List UInt8) : ¬ ((lineEnd ++ rest).take 2 == hyphens) := by
    simp [lineEnd, hyphens]
  rw [Part.Written.bytes, afterBoundary, if_neg (long _), if_neg (more _), ended]
  dsimp only
  rw [split]
  dsimp only
  rw [Part.Written.headers?_line fits]
  dsimp only
  rw [closed]
  rfl

/-- A row of written parts is delivered when as many parts may be found. -/
theorem afterBoundary_bytes (fits : ∀ w ∈ ws, w.Fits boundary) {fuel : Nat}
    (enough : ws.length < fuel) :
    afterBoundary boundary fuel (Part.Written.bytes boundary ws) =
      .ofList (ws.map Part.Written.part) := by
  induction ws generalizing fuel with
  | nil =>
    obtain ⟨fuel, rfl⟩ := Nat.exists_eq_add_of_lt enough
    rfl
  | cons w rest ih =>
    obtain ⟨fuel, rfl⟩ := Nat.exists_eq_add_of_lt enough
    rw [List.forall_mem_cons] at fits
    rw [afterBoundary_cons fits.1, ih fits.2 (by simp; omega)]
    rfl

/-- The bytes of written parts are more than the parts. -/
theorem length_le_bytes (boundary : List UInt8) (ws : List Part.Written) :
    ws.length ≤ (Part.Written.bytes boundary ws).length := by
  induction ws with
  | nil => exact Nat.zero_le _
  | cons w rest ih =>
    simp only [Part.Written.bytes, List.length_append, List.length_cons, lineEnd]
    omega

/-- The parts of a body that is written are delivered, in their order. -/
theorem ofBody_written {boundary : String} {ws : List Part.Written}
    (fits : ∀ w ∈ ws, w.Fits (Utf8.encode boundary)) :
    ofBody boundary (Part.Written.body boundary ws) = .ofList (ws.map Part.Written.part) := by
  have first : splitAt? (hyphens ++ Utf8.encode boundary) (Part.Written.body boundary ws) =
      some ([], Part.Written.bytes (Utf8.encode boundary) ws) :=
    splitAt?_append _ _ (List.cons_ne_nil _ _)
  rw [ofBody, first]
  exact afterBoundary_bytes fits (Nat.lt_succ_of_le (length_le_bytes _ ws))

end Parts

end ApiContract
