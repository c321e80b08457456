import ApiContract.Proofs.Members
import ApiContract.Proofs.Request.Delivery
import ApiContract.Request.Payload

/-!
# Reading multipart bodies

The parts of a body are read in the order in which they are delivered, and reading ends at the
first that is refused. Whether there is room for a part is asked before its content is looked
at, and whether its content is too long before it is read as a text. Of the texts of one name
the first stays in the form, and so does the first of the files, so that a text and a file may
share a name.

## Main definitions

* `Parts.delivered`, `Parts.ending` — the parts that are delivered in full, and what comes then
* `MultipartLimits.Admits` — parts that can all be read
* `MultipartLimits.Refuses` — what a body is refused for
* `Form.Holds` — the first text and the first file of each name, and nothing else

## Main results

* `Form.Holds.unique` — parts have one form
* `Form.Holds.addPart` — one more part is read
* `readParts_after`, `readParts_eq_iff` — parts are read into the form that holds them, or refused
* `readMultipart_delivered` — when a body can be read, as what, and what it is refused for
-/

namespace ApiContract

namespace Parts

/-- What comes after the parts that are delivered in full: the end of the body, or a place where
it breaks off, before a further part or within the content of one. -/
inductive Ending where
  | done
  | broken
  | cut
  deriving DecidableEq, Repr

/-- The parts that are delivered in full. -/
def delivered : Parts → List Part
  | .part p rest => p :: rest.delivered
  | .done | .broken | .cut => []

/-- What comes after them. -/
def ending : Parts → Ending
  | .part _ rest => rest.ending
  | .done => .done
  | .broken => .broken
  | .cut => .cut

@[simp] theorem delivered_ofList (parts : List Part) : (ofList parts).delivered = parts := by
  induction parts with
  | nil => rfl
  | cons p rest ih => rw [ofList, delivered, ih]

@[simp] theorem ending_ofList (parts : List Part) : (ofList parts).ending = .done := by
  induction parts with
  | nil => rfl
  | cons p rest ih => rw [ofList, ending, ih]

end Parts

/-! ### Parts that can be read -/

/-- A part that can be read where there is room for it: its content is not too long and, unless
the part is a file, is the bytes of a text. -/
structure Part.Readable (limits : MultipartLimits) (p : Part) : Prop where
  size : p.content.length ≤ limits.maxFieldSize
  text : p.isFile = false → ∃ text, Utf8.encode text = p.content

/-- Parts that can all be read, one after another. -/
structure MultipartLimits.Admits (limits : MultipartLimits) (parts : List Part) : Prop where
  count : parts.length ≤ limits.maxFields
  each : ∀ p ∈ parts, p.Readable limits

/-- What a part is refused for after `index` others. A part too many is refused whatever its
content is, and one that is too long whatever its bytes are. -/
inductive Part.Refused (limits : MultipartLimits) (index : Nat) (p : Part) :
    ExtractionError → Prop
  | excess (full : limits.maxFields ≤ index) : Refused limits index p (tooManyParts limits)
  | oversize (room : index < limits.maxFields)
      (long : limits.maxFieldSize < p.content.length) :
      Refused limits index p (.tooLarge limits.maxFieldSize p.content.length)
  | noText (room : index < limits.maxFields) (short : p.content.length ≤ limits.maxFieldSize)
      (plain : p.isFile = false) (illFormed : ∀ text, Utf8.encode text ≠ p.content) :
      Refused limits index p (.invalidType .form p.name "not valid UTF-8")

/-- What a body is refused for: its first part that is refused, or the place where it breaks off
after parts that can all be read. When its content breaks off, a part too many is still refused
as that. -/
inductive MultipartLimits.Refuses (limits : MultipartLimits) (parts : List Part) :
    Parts.Ending → ExtractionError → Prop
  | part {before after : List Part} {p : Part} {ending : Parts.Ending} {e : ExtractionError}
      (here : parts = before ++ p :: after) (earlier : limits.Admits before)
      (refused : p.Refused limits before.length e) : Refuses limits parts ending e
  | excess (earlier : limits.Admits parts) (full : limits.maxFields ≤ parts.length) :
      Refuses limits parts .cut (tooManyParts limits)
  | cut (earlier : limits.Admits parts) (room : parts.length < limits.maxFields) :
      Refuses limits parts .cut (.malformed .form ExtractionError.unspecified)
  | broken (earlier : limits.Admits parts) :
      Refuses limits parts .broken (.malformed .body ExtractionError.unspecified)

section Admits

variable {limits : MultipartLimits} {parts before after : List Part} {p : Part}
  {ending : Parts.Ending} {e e' : ExtractionError}

theorem MultipartLimits.admits_nil : limits.Admits [] where
  count := Nat.zero_le _
  each := by simp

theorem MultipartLimits.admits_concat_iff : limits.Admits (before ++ [p]) ↔
    limits.Admits before ∧ before.length < limits.maxFields ∧ p.Readable limits := by
  constructor
  · rintro ⟨count, each⟩
    rw [List.length_append, List.length_singleton] at count
    rw [List.forall_mem_append, List.forall_mem_singleton] at each
    exact ⟨⟨by omega, each.1⟩, count, each.2⟩
  · rintro ⟨⟨_, each⟩, room, readable⟩
    constructor
    · rw [List.length_append, List.length_singleton]
      exact room
    · rw [List.forall_mem_append, List.forall_mem_singleton]
      exact ⟨each, readable⟩

theorem MultipartLimits.Admits.of_isPrefix (all : limits.Admits parts) (within : before <+: parts) :
    limits.Admits before where
  count := within.length_le.trans all.count
  each := fun p member => all.each p (within.subset member)

namespace Part.Refused

theorem unique {index : Nat} (left : p.Refused limits index e)
    (right : p.Refused limits index e') : e = e' := by
  cases left <;> cases right <;> first | rfl | omega

/-- Parts that can all be read come before the one that is refused. -/
theorem isPrefix_of_admits (refused : p.Refused limits before.length e)
    (all : limits.Admits parts) (within : parts <+: before ++ p :: after) : parts <+: before := by
  have unread : ¬ limits.Admits (before ++ [p]) := by
    rw [MultipartLimits.admits_concat_iff]
    rintro ⟨-, room, readable⟩
    cases refused with
    | excess full => omega
    | oversize _ long => exact absurd readable.size (Nat.not_le.mpr long)
    | noText _ _ plain illFormed =>
      obtain ⟨text, same⟩ := readable.text plain
      exact illFormed text same
  have upTo : before ++ [p] <+: before ++ p :: after := ⟨after, (List.append_cons ..).symm⟩
  rcases List.prefix_or_prefix_of_prefix within upTo with shorter | longer
  · refine (List.prefix_concat_iff.mp shorter).resolve_left ?_
    rintro rfl
    exact unread all
  · exact absurd (all.of_isPrefix longer) unread

theorem not_admits (refused : p.Refused limits before.length e) :
    ¬ limits.Admits (before ++ p :: after) := by
  intro all
  have short := (refused.isPrefix_of_admits all (List.prefix_refl _)).length_le
  rw [List.length_append, List.length_cons] at short
  omega

end Part.Refused

namespace MultipartLimits.Refuses

/-- What is refused is not a body that ends after parts that can all be read. -/
theorem not_admits (refuses : limits.Refuses parts ending e) :
    ¬ (ending = .done ∧ limits.Admits parts) := by
  rintro ⟨rfl, all⟩
  cases refuses with
  | part here _ refused =>
    subst here
    exact refused.not_admits all

/-- A body is refused for one thing: of its parts that could be refused, only the first has
nothing but readable parts before it. -/
theorem unique (left : limits.Refuses parts ending e) (right : limits.Refuses parts ending e') :
    e = e' := by
  cases left with
  | part here earlier refused =>
    subst here
    cases right with
    | part here' earlier' refused' =>
      have one := refused'.isPrefix_of_admits earlier ⟨_, here'⟩
      have other := refused.isPrefix_of_admits earlier' ⟨_, here'.symm⟩
      obtain rfl := one.eq_of_length_le other.length_le
      obtain ⟨rfl, -⟩ := List.cons.inj (List.append_cancel_left here')
      exact refused.unique refused'
    | excess all => exact absurd all refused.not_admits
    | cut all => exact absurd all refused.not_admits
    | broken all => exact absurd all refused.not_admits
  | excess all full =>
    cases right with
    | part here _ refused => exact absurd (here ▸ all) refused.not_admits
    | excess => rfl
    | cut _ room => omega
  | cut all room =>
    cases right with
    | part here _ refused => exact absurd (here ▸ all) refused.not_admits
    | excess _ full => omega
    | cut => rfl
  | broken all =>
    cases right with
    | part here _ refused => exact absurd (here ▸ all) refused.not_admits
    | broken => rfl

end MultipartLimits.Refuses

end Admits

/-! ### The form of parts -/

/-- A form holds parts: under each name it has the text with the bytes of the first part of that
name which is no file, and the content of the first that is one. Names without such a part it
does not have, and none twice; its files are in the order in which their names first occur. -/
structure Form.Holds (f : Form) (parts : List Part) : Prop where
  text : ∀ name, (Members.lookup name f.fields).map Utf8.encode =
    (parts.find? fun p => !p.isFile && p.name == name).map Part.content
  file : ∀ name, Members.lookup name f.files =
    (parts.find? fun p => p.isFile && p.name == name).map Part.content
  sorted : Members.Sorted f.fields
  order : Members.keys f.files = Members.distinct ((parts.filter Part.isFile).map Part.name)

section Form

variable {limits : MultipartLimits} {f g : Form} {parts : List Part} {p : Part}
  {e : ExtractionError}

namespace Form

theorem lookup_addFile (f : Form) (key name : String) (content : List UInt8) :
    Members.lookup key (f.addFile name content).files =
      (Members.lookup key f.files).or (if name = key then some content else none) := by
  rw [addFile, Members.contains]
  cases there : Members.lookup name f.files with
  | none => exact Members.lookup_append key f.files _
  | some old =>
    by_cases same : name = key
    · subst same
      simp [there]
    · simp [same]

theorem keys_addFile (f : Form) (name : String) (content : List UInt8) :
    Members.keys (f.addFile name content).files =
      if name ∈ Members.keys f.files then Members.keys f.files
      else Members.keys f.files ++ [name] := by
  rw [addFile, Members.contains]
  simp only [Members.isSome_lookup_iff]
  split
  · rfl
  · exact List.map_append

theorem fields_addFile (f : Form) (name : String) (content : List UInt8) :
    (f.addFile name content).fields = f.fields := by
  rw [addFile]
  split <;> rfl

/-- Reading a part that there is room for adds its file or its text. -/
theorem addPart_eq_ok (ok : f.addPart limits p = .ok g) : p.Readable limits ∧
    ((p.isFile = true ∧ g = f.addFile p.name p.content) ∨
      p.isFile = false ∧ ∃ text, Utf8.encode text = p.content ∧ g = f.addField p.name text) := by
  rw [addPart] at ok
  split at ok
  · cases ok
  · rename_i short
    have size := Nat.not_lt.mp short
    cases file : p.isFile with
    | true =>
      rw [if_pos file] at ok
      obtain rfl := Except.ok.inj ok
      exact ⟨⟨size, fun plain => by rw [file] at plain; cases plain⟩, .inl ⟨rfl, rfl⟩⟩
    | false =>
      rw [if_neg (by simp [file])] at ok
      cases read : Utf8.decode? p.content with
      | none =>
        rw [read] at ok
        cases ok
      | some text =>
        rw [read] at ok
        obtain rfl := Except.ok.inj ok
        have same := Utf8.decode?_eq_some_iff.mp read
        exact ⟨⟨size, fun _ => ⟨text, same⟩⟩, .inr ⟨rfl, text, same, rfl⟩⟩

/-- A part that there is room for is refused for its size, or for its bytes. -/
theorem refused_of_addPart {index : Nat} (room : index < limits.maxFields)
    (failed : f.addPart limits p = .error e) : p.Refused limits index e := by
  rw [addPart] at failed
  split at failed
  · rename_i long
    obtain rfl := Except.error.inj failed
    exact .oversize room long
  · rename_i short
    split at failed
    · cases failed
    · rename_i plain
      cases read : Utf8.decode? p.content with
      | some text =>
        rw [read] at failed
        cases failed
      | none =>
        rw [read] at failed
        obtain rfl := Except.error.inj failed
        exact .noText room (Nat.not_lt.mp short) (Bool.eq_false_iff.mpr plain)
          (Utf8.decode?_eq_none_iff.mp read)

namespace Holds

theorem empty : ({} : Form).Holds [] where
  text _ := rfl
  file _ := rfl
  sorted := .nil
  order := rfl

/-- Parts have one form. -/
theorem unique (left : f.Holds parts) (right : g.Holds parts) : f = g := by
  have fields : f.fields = g.fields := by
    refine left.sorted.ext right.sorted fun name => ?_
    apply Option.map_injective Utf8.encode_injective
    rw [left.text, right.text]
  have files : f.files = g.files := by
    apply Members.ext_of_keys (left.order.trans right.order.symm)
    · rw [left.order]
      exact Members.nodup_distinct _
    · intro name
      rw [left.file, right.file]
  cases f
  cases g
  cases fields
  cases files
  rfl

/-- Of one more part, the content is that of the first of a kind when there is none before. -/
private theorem content_concat (q : Part → Bool) (parts : List Part) (p : Part) :
    ((parts ++ [p]).find? q).map Part.content =
      ((parts.find? q).map Part.content).or (if q p then some p.content else none) := by
  rw [List.find?_append, Option.map_or, List.find?_singleton]
  split <;> rfl

/-- A file is added unless there is one of its name. -/
theorem addFile (holds : f.Holds parts) (file : p.isFile = true) :
    (f.addFile p.name p.content).Holds (parts ++ [p]) where
  text name := by
    rw [fields_addFile, holds.text, content_concat]
    simp [file]
  file name := by
    rw [lookup_addFile, holds.file, content_concat]
    simp [file]
  sorted := by
    rw [fields_addFile]
    exact holds.sorted
  order := by
    rw [keys_addFile, holds.order, List.filter_append, List.filter_singleton, file, cond_true,
      List.map_append, List.map_singleton, Members.distinct_concat]
    simp only [Members.mem_distinct]

/-- A text is added unless there is one of its name. -/
theorem addField (holds : f.Holds parts) (plain : p.isFile = false) {text : String}
    (same : Utf8.encode text = p.content) : (f.addField p.name text).Holds (parts ++ [p]) where
  text name := by
    rw [Form.addField, Members.lookup_insertNew, Option.map_or, holds.text, content_concat]
    by_cases here : p.name = name
    · simp [here, plain, same]
    · simp [here]
  file name := by
    rw [content_concat]
    simp [Form.addField, holds.file, plain]
  sorted := holds.sorted.insertNew p.name text
  order := by
    rw [List.filter_append, List.filter_singleton, plain, cond_false, List.append_nil]
    exact holds.order

/-- A part that is read can be read, and the form holds it with the parts before. -/
theorem addPart (holds : f.Holds parts) (ok : f.addPart limits p = .ok g) :
    p.Readable limits ∧ g.Holds (parts ++ [p]) := by
  obtain ⟨readable, ⟨file, rfl⟩ | ⟨plain, text, same, rfl⟩⟩ := addPart_eq_ok ok
  · exact ⟨readable, holds.addFile file⟩
  · exact ⟨readable, holds.addField plain same⟩

end Holds

end Form

end Form

/-! ### Reading the parts of a body -/

/-- What comes of reading parts: the form that holds them, when they can all be read and the body
ends after them, and otherwise what they are refused for. -/
def MultipartLimits.Gives (limits : MultipartLimits) (parts : List Part) (ending : Parts.Ending) :
    Except ExtractionError Form → Prop
  | .ok form => (ending = .done ∧ limits.Admits parts) ∧ form.Holds parts
  | .error e => limits.Refuses parts ending e

section Read

variable {limits : MultipartLimits} {parts : Parts}

/-- Nothing else comes of it. -/
theorem MultipartLimits.Gives.unique {parts : List Part} {ending : Parts.Ending}
    {result other : Except ExtractionError Form} (left : limits.Gives parts ending result)
    (right : limits.Gives parts ending other) : result = other := by
  cases result with
  | ok form =>
    cases other with
    | ok form' => rw [left.2.unique right.2]
    | error e => exact absurd left.1 right.not_admits
  | error e =>
    cases other with
    | ok form => exact absurd right.1 left.not_admits
    | error e' => rw [Refuses.unique left right]

/-- Parts are read after others that can all be read, into the form of these. -/
theorem readParts_after {f : Form} {before : List Part} (earlier : limits.Admits before)
    (holds : f.Holds before) :
    limits.Gives (before ++ parts.delivered) parts.ending
      (readParts limits before.length f parts) := by
  -- What has been read grows at its end, and the form holds it all along.
  induction parts generalizing before f with
  | done =>
    rw [readParts, Parts.delivered, List.append_nil]
    exact ⟨⟨rfl, earlier⟩, holds⟩
  | broken =>
    rw [readParts, Parts.delivered, List.append_nil]
    exact .broken earlier
  | cut =>
    rw [readParts, Parts.delivered, List.append_nil]
    split
    · rename_i full
      exact .excess earlier full
    · rename_i room
      exact .cut earlier (Nat.not_le.mp room)
  | part p rest ih =>
    rw [readParts, Parts.delivered, Parts.ending]
    by_cases full : limits.maxFields ≤ before.length
    · -- Nothing is asked of the content of a part too many.
      rw [if_pos full]
      exact .part rfl earlier (.excess full)
    · rw [if_neg full]
      have room := Nat.not_le.mp full
      cases added : f.addPart limits p with
      | error e => exact .part rfl earlier (Form.refused_of_addPart room added)
      | ok g =>
        obtain ⟨readable, holds⟩ := holds.addPart added
        have onward := ih (MultipartLimits.admits_concat_iff.mpr ⟨earlier, room, readable⟩) holds
        rw [List.length_append, List.length_singleton, ← List.append_cons] at onward
        exact onward

/-- Reading parts gives one thing: their form, or what they are refused for. -/
theorem readParts_eq_iff {result : Except ExtractionError Form} :
    readParts limits 0 {} parts = result ↔ limits.Gives parts.delivered parts.ending result := by
  have given : limits.Gives parts.delivered parts.ending (readParts limits 0 {} parts) :=
    readParts_after MultipartLimits.admits_nil .empty
  constructor
  · rintro rfl
    exact given
  · exact given.unique

end Read

/-! ### Payloads -/

namespace Parts

/-- A blank body breaks off before its first part, as it has no boundary. -/
theorem ofBody_of_blank {body : List UInt8} (blank : body.all isBlankByte) (boundary : String) :
    ofBody boundary body = .broken := by
  rw [ofBody]
  cases found : splitAt? (hyphens ++ Utf8.encode boundary) body with
  | none => rfl
  | some around =>
    obtain ⟨before, after⟩ := around
    rw [eq_of_splitAt? found, List.all_append, List.all_append, List.all_append] at blank
    simp [hyphens, isBlankByte] at blank

end Parts

theorem BodyKind.ofContentType_of_boundary? {contentType boundary : String}
    (named : boundary? contentType = some boundary) :
    ofContentType (some contentType) = .multipart := by
  obtain ⟨m, read, given⟩ := Option.bind_eq_some_iff.mp named
  obtain ⟨form, -⟩ := Option.ite_none_right_eq_some.mp given
  rw [ofContentType, Option.bind_some, read]
  dsimp only
  rw [if_neg fun other => absurd (form.1.symm.trans other.1) (by decide), if_pos form]

/-- The text fields of a form are those of the payload. -/
theorem Payload.field?_ofFields (kind : BodyKind) (fields : List (String × String))
    (files : List (String × List UInt8)) (name : String) :
    (Payload.mk kind (ofFields fields) files).field? name = Members.lookup name fields := by
  have found : (ofFields fields).member? name = (Members.lookup name fields).map Json.str :=
    Members.lookup_map (fun _ text => Json.str text) name fields
  rw [field?, found]
  cases Members.lookup name fields <;> rfl

variable {contentType boundary : String} {body : List UInt8} {limits : MultipartLimits}

theorem readMultipart_eq (named : boundary? contentType = some boundary) :
    readMultipart contentType body limits =
      readParts limits 0 {} (Parts.ofBody boundary body) := by
  rw [readMultipart, named]

/-- The payload of a body that is not blank is its form, if that can be read. -/
theorem readPayload_eq (named : boundary? contentType = some boundary)
    (visible : ¬ body.all isBlankByte) :
    readPayload (some contentType) body limits =
      (readMultipart contentType body limits).map fun form =>
        { kind := .multipart, fields := Payload.ofFields form.fields, files := form.files } := by
  rw [readPayload, BodyKind.ofContentType_of_boundary? named, if_neg visible]
  dsimp only
  rw [Option.getD_some]
  cases readMultipart contentType body limits <;> rfl

/-- A body in which parts are found is not taken for a blank one. -/
theorem not_blank_of_form (named : boundary? contentType = some boundary) {form : Form}
    (read : readMultipart contentType body limits = .ok form) : ¬ body.all isBlankByte := by
  intro blank
  rw [readMultipart_eq named, Parts.ofBody_of_blank blank, readParts] at read
  cases read

/-! ### The law of reading -/

/-- For any limits, and whatever parts are delivered of a body: they are read exactly when the
body ends after them, they are not too many, none of them is too long, and each that is no file
is a text. Then the form holds the first text and the first file of each name and nothing else,
and the payload of the request has them. Otherwise the body is refused for the first part that
cannot be read, or for breaking off after parts that all can; a part too many is refused as that
whatever its content is, even where it breaks off, and a part too long whatever its bytes are. The
request is refused for the same, unless its body is blank. -/
theorem readMultipart_delivered {parts : Parts} (named : boundary? contentType = some boundary)
    (delivery : Parts.ofBody boundary body = parts) (limits : MultipartLimits) :
    ((∃ form, readMultipart contentType body limits = .ok form) ↔
        parts.ending = .done ∧ parts.delivered.length ≤ limits.maxFields ∧
          ∀ p ∈ parts.delivered, p.content.length ≤ limits.maxFieldSize ∧
            (p.isFile = false → ∃ text, Utf8.encode text = p.content)) ∧
      (∀ form, readMultipart contentType body limits = .ok form ↔
        (parts.ending = .done ∧ limits.Admits parts.delivered) ∧ form.Holds parts.delivered) ∧
      (∀ e, readMultipart contentType body limits = .error e ↔
        limits.Refuses parts.delivered parts.ending e) ∧
      (∀ form, readMultipart contentType body limits = .ok form →
        ∃ payload, readPayload (some contentType) body limits = .ok payload ∧
          (∀ name, payload.field? name = Members.lookup name form.fields) ∧
          payload.files = form.files) ∧
      ∀ e, readMultipart contentType body limits = .error e → ¬ body.all isBlankByte →
        readPayload (some contentType) body limits = .error e := by
  have given : ∀ result, readMultipart contentType body limits = result ↔
      limits.Gives parts.delivered parts.ending result := by
    intro result
    rw [readMultipart_eq named, delivery, readParts_eq_iff]
  refine ⟨⟨?_, ?_⟩, fun form => given (.ok form), fun e => given (.error e), ?_, ?_⟩
  · rintro ⟨form, read⟩
    obtain ⟨⟨whole, all⟩, -⟩ := (given _).mp read
    exact ⟨whole, all.count, fun p member => ⟨(all.each p member).size, (all.each p member).text⟩⟩
  · rintro ⟨whole, count, each⟩
    have all : limits.Admits parts.delivered :=
      ⟨count, fun p member => ⟨(each p member).1, (each p member).2⟩⟩
    -- Something comes of reading, and it is no error.
    cases read : readMultipart contentType body limits with
    | ok form => exact ⟨form, rfl⟩
    | error e => exact absurd ⟨whole, all⟩ ((given _).mp read).not_admits
  · intro form read
    rw [readPayload_eq named (not_blank_of_form named read), read]
    exact ⟨_, rfl, Payload.field?_ofFields _ _ _, rfl⟩
  · intro e read visible
    rw [readPayload_eq named visible, read, Except.map]

/-- A photo between two captions, all of one name. -/
def album : List Part :=
  [{ name := "photo", isFile := false, content := Utf8.encode "Dawn" },
    { name := "photo", isFile := true, content := [0x89, 0x50] },
    { name := "photo", isFile := false, content := Utf8.encode "Dusk" }]

/-- The album as it is written. -/
def writtenAlbum : List Part.Written :=
  [{ disposition := Utf8.encode "form-data; name=\"photo\"", content := Utf8.encode "Dawn" },
    { disposition := Utf8.encode "form-data; name=\"photo\"; filename=\"dawn.png\"",
      content := [0x89, 0x50] },
    { disposition := Utf8.encode "form-data; name=\"photo\"", content := Utf8.encode "Dusk" }]

theorem fits_writtenAlbum : ∀ w ∈ writtenAlbum, w.Fits (Utf8.encode "sea") := by
  decide +kernel

theorem map_part_writtenAlbum : writtenAlbum.map Part.Written.part = album := by
  have named : Parts.attribute? (Utf8.encode "name") 0 none
      (Utf8.encode "form-data; name=\"photo\"") = some (Utf8.encode "photo") := by
    decide +kernel
  have noFile : Parts.attribute? (Utf8.encode "filename") 0 none
      (Utf8.encode "form-data; name=\"photo\"") = none := by
    decide +kernel
  have named' : Parts.attribute? (Utf8.encode "name") 0 none
      (Utf8.encode "form-data; name=\"photo\"; filename=\"dawn.png\"") =
        some (Utf8.encode "photo") := by
    decide +kernel
  have file : Parts.attribute? (Utf8.encode "filename") 0 none
      (Utf8.encode "form-data; name=\"photo\"; filename=\"dawn.png\"") =
        some (Utf8.encode "dawn.png") := by
    decide +kernel
  simp [writtenAlbum, album, Part.Written.part, Parts.disposition, named, noFile, named', file,
    Utf8.decode?_encode]

theorem readable_of_mem_album (maxFields : Nat) {p : Part} (member : p ∈ album) :
    p.Readable { maxFields, maxFieldSize := 4 } := by
  have short : ∀ p ∈ album, p.content.length ≤ 4 := by decide
  constructor
  · exact short p member
  · intro plain
    simp only [album, List.mem_cons, List.not_mem_nil, or_false] at member
    obtain rfl | rfl | rfl := member
    · exact ⟨"Dawn", rfl⟩
    · cases plain
    · exact ⟨"Dusk", rfl⟩

/-- The first caption and the photo are what remains of an album, since the second caption has
the name of the first. With room for two parts the second caption is one too many, and with three
bytes for each the first is too long. -/
theorem readMultipart_delivered_album :
    boundary? "multipart/form-data; boundary=sea" = some "sea" ∧
      Parts.ofBody "sea" (Part.Written.body "sea" writtenAlbum) = .ofList album ∧
      readMultipart "multipart/form-data; boundary=sea" (Part.Written.body "sea" writtenAlbum)
          { maxFields := 3, maxFieldSize := 4 } =
        .ok { fields := [("photo", "Dawn")], files := [("photo", [0x89, 0x50])] } ∧
      readMultipart "multipart/form-data; boundary=sea" (Part.Written.body "sea" writtenAlbum)
          { maxFields := 2, maxFieldSize := 4 } =
        .error (.malformed .body "too many multipart fields (max 2)") ∧
      readMultipart "multipart/form-data; boundary=sea" (Part.Written.body "sea" writtenAlbum)
          { maxFields := 3, maxFieldSize := 3 } =
        .error (.tooLarge 3 4) := by
  have named : boundary? "multipart/form-data; boundary=sea" = some "sea" := by
    simp [boundary?, MediaType.read?, MediaType.readParams, MediaType.readValue,
      MediaType.param?, MediaType.withoutSuffix, Http.isTokenChar, Text.lowerAscii]
  have delivery : Parts.ofBody "sea" (Part.Written.body "sea" writtenAlbum) = .ofList album := by
    rw [Parts.ofBody_written fits_writtenAlbum, map_part_writtenAlbum]
  have law := readMultipart_delivered named delivery
  rw [Parts.delivered_ofList, Parts.ending_ofList] at law
  refine ⟨named, delivery, ?_, ?_, ?_⟩
  · obtain ⟨-, reads, -⟩ := law { maxFields := 3, maxFieldSize := 4 }
    refine (reads _).mpr ⟨⟨rfl, by decide, fun p => readable_of_mem_album 3⟩, ?_⟩
    refine ⟨fun name => ?_, fun name => ?_, List.pairwise_singleton _ _, by decide⟩
    · by_cases here : "photo" = name
      · simp [album, here, Members.lookup]
      · simp [album, here, Members.lookup]
    · by_cases here : "photo" = name
      · simp [album, here, Members.lookup]
      · simp [album, here, Members.lookup]
  · obtain ⟨-, -, refused, -⟩ := law { maxFields := 2, maxFieldSize := 4 }
    have captioned : MultipartLimits.Admits { maxFields := 2, maxFieldSize := 4 }
        (album.take 2) :=
      ⟨by decide, fun p member => readable_of_mem_album 2 (List.mem_of_mem_take member)⟩
    exact (refused _).mpr (.part rfl captioned (.excess (by decide)))
  · obtain ⟨-, -, refused, -⟩ := law { maxFields := 3, maxFieldSize := 3 }
    exact (refused _).mpr
      (.part rfl MultipartLimits.admits_nil (.oversize (by decide) (by decide)))

end ApiContract
