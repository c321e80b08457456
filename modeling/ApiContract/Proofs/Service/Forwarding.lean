import ApiContract.Proofs.Service.Outcome
import ApiContract.Proofs.Uuid
import Mathlib.Data.List.ReduceOption
import Mathlib.Logic.Function.Iterate

/-!
# Forwarding failures

A service that gets an envelope from another one rebuilds the failure and sends an envelope of
its own. The kind of the failure travels as a code and a status only. A built-in kind is found
again by its code, and a custom kind keeps the status that it came with, unless it has taken
the code of a built-in kind: then it is the built-in kind from there on, with the status of
that kind. Everything else that a client is told comes through, and the identifier is the one
that was given first.

## Main definitions

* `FailureKind.builtIns` — the kinds that have a fixed code and a fixed status
* `FailureKind.Overruled` — a kind that has the code of a built-in one, and another status
* `Failure.forwarded` — a failure that another service rebuilds
* `Failure.passedOn` — a failure after a row of services
* `Failure.Forwards` — what forwarding keeps of a failure

## Main results

* `FailureKind.status_ofCode_iff` — which kinds keep their status
* `Failure.forwarded_forwarded` — a failure that was forwarded is forwarded as it is
* `Failure.passedOn_cons` — what a row of services makes of a failure
* `Failure.ofJson?_sent` — the JSON that is sent is read as the envelope
* `Failure.forwards` — only the status of an overruled kind is lost
-/

namespace ApiContract

/-! ### Codes and statuses -/

theorem Status.of?_code (s : Status) : of? s.code = some s :=
  dif_pos ⟨s.code_ge, s.code_lt⟩

namespace FailureKind

variable {k b : FailureKind}

/-- The kinds that have a fixed code and a fixed status. -/
def builtIns : List FailureKind :=
  [.invalidParameter, .authorizationHeaderMissing, .tokenInvalid, .tokenExpired,
    .requestTimeout, .badResponse, .internalValidation, .unhandledServer]

/-- A kind is overruled if a built-in kind has its code, and another status. -/
def Overruled (k : FailureKind) : Prop :=
  ∃ b ∈ builtIns, b.code = k.code ∧ b.status ≠ k.status

instance : DecidablePred Overruled := fun k =>
  inferInstanceAs (Decidable (∃ b ∈ builtIns, b.code = k.code ∧ b.status ≠ k.status))

/-- The code of a built-in kind is that kind, whatever status comes with it. -/
theorem ofCode_of_builtIn (known : b ∈ builtIns) (status : Status) :
    ofCode b.code status = b := by
  simp only [builtIns, List.mem_cons, List.not_mem_nil, or_false] at known
  rcases known with rfl | rfl | rfl | rfl | rfl | rfl | rfl | rfl <;> rfl

/-- A code is that of a built-in kind, or else the code of a custom one. -/
theorem ofCode_cases (code : String) (status : Status) :
    (∃ b ∈ builtIns, b.code = code ∧ ofCode code status = b) ∨
      (∀ b ∈ builtIns, b.code ≠ code) ∧ ofCode code status = .custom code status := by
  by_cases known : ∃ b ∈ builtIns, b.code = code
  · obtain ⟨b, member, rfl⟩ := known
    exact .inl ⟨b, member, rfl, ofCode_of_builtIn member status⟩
  · have foreign : ∀ b ∈ builtIns, b.code ≠ code := fun b member same =>
      known ⟨b, member, same⟩
    refine .inr ⟨foreign, ?_⟩
    -- The code is none of those that the table of kinds begins with.
    simp only [builtIns, List.forall_mem_cons, FailureKind.code] at foreign
    rw [ofCode] <;> grind

/-- A kind is found again with its code. -/
theorem code_ofCode (code : String) (status : Status) : (ofCode code status).code = code := by
  rcases ofCode_cases code status with ⟨b, -, same, found⟩ | ⟨-, found⟩
  · rw [found, same]
  · rw [found]
    rfl

/-- A kind that was found by its code is found again as it is. -/
theorem ofCode_ofCode (code : String) (status : Status) :
    ofCode (ofCode code status).code (ofCode code status).status = ofCode code status := by
  rcases ofCode_cases code status with ⟨b, known, -, found⟩ | ⟨-, found⟩
  · rw [found, ofCode_of_builtIn known]
  · rw [found]
    exact found

/-- A kind keeps its status unless it is overruled. -/
theorem status_ofCode_iff : (ofCode k.code k.status).status = k.status ↔ ¬k.Overruled := by
  rcases ofCode_cases k.code k.status with ⟨b, known, same, found⟩ | ⟨foreign, found⟩
  · rw [found]
    constructor
    · rintro kept ⟨other, built, alike, differ⟩
      -- Two built-in kinds of one code are the same kind.
      have one : other = b := by
        rw [← ofCode_of_builtIn built k.status, alike, found]
      exact differ (one ▸ kept)
    · intro free
      by_contra differ
      exact free ⟨b, known, same, differ⟩
  · rw [found]
    exact iff_of_true rfl fun ⟨b, known, same, _⟩ => foreign b known same

/-- Only a custom kind is overruled. -/
theorem Overruled.exists_custom (overruled : k.Overruled) :
    ∃ code status, k = .custom code status := by
  cases k with
  | custom code status => exact ⟨code, status, rfl⟩
  | _ => exact absurd overruled (by decide)

end FailureKind

/-! ### Records -/

namespace Json

variable {members : List (String × Json)} {key : String}

theorem natBelow?_natCast {bound n : Nat} (small : n < bound) :
    natBelow? bound (.int n) = some n := by
  rw [natBelow?, if_pos ⟨Int.natCast_nonneg n, Int.ofNat_lt.mpr small⟩, Int.toNat_natCast]

/-- Different members with the names of a record are all of them known. -/
theorem known?_eq_self {names : List String} (distinct : (Members.keys members).Nodup)
    (within : ∀ key ∈ Members.keys members, key ∈ names) : known? names members = some members := by
  induction members with
  | nil => rfl
  | cons p rest ih =>
    rw [Members.keys_cons, List.nodup_cons] at distinct
    rw [Members.keys_cons, List.forall_mem_cons] at within
    have alone : Members.contains p.1 rest = false := by
      rw [Members.contains, Members.lookup_eq_none_iff.mpr distinct.1]
      rfl
    simp [known?, ih distinct.2 within.2, within.1, alone]

theorem required?_of_lookup {α : Type} {value : Json} {read : Json → Option α}
    (found : Members.lookup key members = some value) :
    required? key members read = read value := by
  rw [required?, found, Option.bind_some]

theorem optional?_of_lookup {text : Option String}
    (found : Members.lookup key members = text.map .str) :
    optional? key members asStr? = some text := by
  rw [optional?, found]
  cases text <;> rfl

end Json

namespace Failure

variable {f : Failure} {id : Uuid}

/-! ### One service -/

/-- The failure that another service rebuilds from its envelope. -/
def forwarded (f : Failure) : Failure := ofEnvelope f.toEnvelope

/-- What is rebuilt: everything that a client is told, and nothing that only a report says. -/
theorem forwarded_eq (f : Failure) : f.forwarded =
    { kind := .ofCode f.code f.status, description := f.description, id := f.id,
      userMessage := f.userMessage } := by
  have same : (f.id.map Uuid.toText).bind Uuid.read? = f.id := by
    cases f.id with
    | none => rfl
    | some id => rw [Option.map_some, Option.bind_some, Uuid.read?_toText]
  simp only [forwarded, ofEnvelope, toEnvelope, Status.of?_code, Option.getD_some, same]

theorem kind_forwarded (f : Failure) : f.forwarded.kind = .ofCode f.code f.status := by
  rw [forwarded_eq]

theorem id_forwarded (f : Failure) : f.forwarded.id = f.id := by
  rw [forwarded_eq]

/-- What has the code of a built-in kind is rebuilt with the status of that kind. -/
theorem status_forwarded_of_builtIn {b : FailureKind} (known : b ∈ FailureKind.builtIns)
    (same : b.code = f.code) : f.forwarded.status = b.status := by
  rw [status, kind_forwarded, ← same, FailureKind.ofCode_of_builtIn known]

theorem code_forwarded (f : Failure) : f.forwarded.code = f.code := by
  rw [code, kind_forwarded, FailureKind.code_ofCode]

theorem status_forwarded_iff : f.forwarded.status = f.status ↔ ¬f.kind.Overruled := by
  rw [← FailureKind.status_ofCode_iff, status, kind_forwarded, status, code]

/-- A failure that was forwarded is forwarded as it is. -/
theorem forwarded_forwarded (f : Failure) : f.forwarded.forwarded = f.forwarded := by
  have settled : FailureKind.ofCode f.forwarded.code f.forwarded.status = f.forwarded.kind := by
    rw [code, status, kind_forwarded, FailureKind.ofCode_ofCode]
  rw [f.forwarded.forwarded_eq, settled, forwarded_eq]

theorem toEnvelope_forwarded (free : ¬f.kind.Overruled) :
    f.forwarded.toEnvelope = f.toEnvelope := by
  have rest : f.forwarded.description = f.description ∧
      f.forwarded.userMessage = f.userMessage := by
    rw [forwarded_eq]
    exact ⟨rfl, rfl⟩
  simp only [toEnvelope, code_forwarded, status_forwarded_iff.mpr free, id_forwarded, rest]

/-! ### A row of services -/

/-- A service passes a failure on. It rebuilds it, and gives it the identifier that it has at
hand for a failure without one, if any. -/
def passOn (f : Failure) : Option Uuid → Failure
  | none => f.forwarded
  | some fresh => f.forwarded.ensureId fresh

/-- A failure after a row of services. -/
def passedOn (f : Failure) (services : List (Option Uuid)) : Failure :=
  services.foldl passOn f

theorem passOn_eq (f : Failure) (service : Option Uuid) :
    f.passOn service = { f.forwarded with id := f.id.or service } := by
  cases service with
  | none => rw [passOn, Option.or_none, ← id_forwarded]
  | some fresh => rw [passOn, ensureId, id_forwarded, Option.or_some]

/-- The identifier does not matter for the rest of what is forwarded. -/
theorem forwarded_withId (f : Failure) (id : Option Uuid) :
    forwarded { f with id } = { f.forwarded with id } := by
  rw [forwarded_eq, forwarded_eq f]
  rfl

/-- After a row of services a failure is what the first of them has rebuilt, with its own
identifier, or else the first one that was at hand. -/
theorem passedOn_cons (f : Failure) (service : Option Uuid) (services : List (Option Uuid)) :
    f.passedOn (service :: services) =
      { f.forwarded with id := f.id.or (service :: services).reduceOption.head? } := by
  induction services generalizing f service with
  | nil =>
    rw [passedOn, List.foldl_cons, List.foldl_nil, passOn_eq]
    cases service <;> rfl
  | cons next rest ih =>
    -- The next service gets what the first one has rebuilt, and rebuilds the same.
    have step : f.passedOn (service :: next :: rest) =
        (f.passOn service).passedOn (next :: rest) := rfl
    rw [step, ih, passOn_eq, forwarded_withId, forwarded_forwarded, Option.or_assoc]
    cases service <;> rfl

theorem id_passedOn (f : Failure) (services : List (Option Uuid)) :
    (f.passedOn services).id = f.id.or services.reduceOption.head? := by
  cases services with
  | nil => exact (Option.or_none).symm
  | cons service rest => rw [passedOn_cons]

/-- An identifier that was given is not replaced later. -/
theorem id_passedOn_append {before : List (Option Uuid)} (given : (f.passedOn before).id = some id)
    (later : List (Option Uuid)) : (f.passedOn (before ++ later)).id = some id := by
  have split : f.passedOn (before ++ later) = (f.passedOn before).passedOn later :=
    List.foldl_append
  rw [split, id_passedOn, given, Option.some_or]

/-- The envelope after a row of services is the first one, but for an identifier that it did
not have. -/
theorem toEnvelope_passedOn (free : ¬f.kind.Overruled) (services : List (Option Uuid)) :
    (f.passedOn services).toEnvelope =
      { f.toEnvelope with id := (f.passedOn services).id.map Uuid.toText } := by
  cases services with
  | nil => rfl
  | cons service rest =>
    rw [passedOn_cons, ← toEnvelope_forwarded free]
    rfl

/-! ### What is sent -/

theorem keys_envelopeMembers_sublist (f : Failure) (id : Uuid) :
    (Members.keys (f.envelopeMembers id)).Sublist
      ["status", "error", "error_description", "error_id", "user_message"] := by
  rw [envelopeMembers]
  cases f.userMessage with
  | none => simp [Members.keys]
  | some m => simp [Members.keys]

theorem record?_envelopeMembers (f : Failure) (id : Uuid) :
    Json.record? ["status", "error", "error_description", "error_id", "user_message"]
        (.obj (Members.ofList (f.envelopeMembers id))) =
      some (Members.ofList (f.envelopeMembers id)) := by
  rw [Json.record?]
  refine Json.known?_eq_self (Members.sorted_ofList _).nodup_keys fun key member => ?_
  rw [← Members.isSome_lookup_iff, f.lookup_envelopeMembers, Members.isSome_lookup_iff] at member
  exact (f.keys_envelopeMembers_sublist id).subset member

/-- The JSON that is sent for a failure is read as the envelope of the failure. -/
theorem ofJson?_sent (f : Failure) (fresh : Uuid) :
    Envelope.ofJson? (Json.sorted (f.ensureId fresh).toEnvelope.toJson) =
      some (f.ensureId fresh).toEnvelope := by
  have small : f.status.code < Decimal.bound 16 := f.status.code_lt.trans (by decide)
  -- The members have moved, but each is read by its name.
  obtain ⟨status, error, description, id, userMessage⟩ :=
    f.lookups_envelopeMembers (f.id.getD fresh)
  have given : Members.lookup "error_id" (Members.ofList (f.envelopeMembers (f.id.getD fresh))) =
      (some (f.id.getD fresh).toText).map .str := id
  simp only [sorted_toEnvelope, Envelope.ofJson?, Option.bind_eq_bind, Option.bind_eq_some_iff]
  exact ⟨_, f.record?_envelopeMembers _,
    _, (Json.required?_of_lookup status).trans (Json.natBelow?_natCast small),
    _, Json.required?_of_lookup error, _, Json.required?_of_lookup description,
    _, Json.optional?_of_lookup given, _, Json.optional?_of_lookup userMessage, rfl⟩

/-! ### Everything that a client is told -/

/-- What forwarding keeps of a failure. -/
structure Forwards (f : Failure) : Prop where
  code : f.forwarded.code = f.code
  description : f.forwarded.description = f.description
  id : f.forwarded.id = f.id
  userMessage : f.forwarded.userMessage = f.userMessage
  /-- The status is kept unless the kind is overruled. -/
  status : f.forwarded.status = f.status ↔ ¬f.kind.Overruled
  /-- Only a custom kind is overruled. -/
  custom : f.kind.Overruled → ∃ code status, f.kind = .custom code status
  /-- With the code of a built-in kind comes the status of that kind. -/
  overruled : ∀ b ∈ FailureKind.builtIns, b.code = f.code → f.forwarded.status = b.status
  /-- The envelope is kept unless the kind is overruled, over any number of services. -/
  envelope : ¬f.kind.Overruled → ∀ n, (forwarded^[n] f).toEnvelope = f.toEnvelope
  /-- Whatever the kind, only the first service changes the envelope. -/
  settled : ∀ n, (forwarded^[n + 1] f).toEnvelope = f.forwarded.toEnvelope
  /-- If services give identifiers, then the envelope changes in nothing else. -/
  identified : ¬f.kind.Overruled → ∀ services, (f.passedOn services).toEnvelope =
    { f.toEnvelope with id := (f.passedOn services).id.map Uuid.toText }
  /-- The identifier is that of the failure, or else the first one that a service gives. -/
  first : ∀ services, (f.passedOn services).id = f.id.or services.reduceOption.head?
  /-- No service replaces an identifier that was given before. -/
  kept : ∀ before later id, (f.passedOn before).id = some id →
    (f.passedOn (before ++ later)).id = some id

theorem iterate_forwarded (f : Failure) (n : Nat) : forwarded^[n + 1] f = f.forwarded := by
  rw [Function.iterate_succ_apply]
  exact Function.iterate_fixed f.forwarded_forwarded n

/-- Forwarding keeps what a client is told of a failure, save the status of an overruled
kind. -/
theorem forwards (f : Failure) : f.Forwards where
  code := f.code_forwarded
  description := by rw [forwarded_eq]
  id := f.id_forwarded
  userMessage := by rw [forwarded_eq]
  status := status_forwarded_iff
  custom overruled := overruled.exists_custom
  overruled _ known same := status_forwarded_of_builtIn known same
  envelope free n := by
    cases n with
    | zero => rfl
    | succ n => rw [iterate_forwarded, toEnvelope_forwarded free]
  settled n := by rw [iterate_forwarded]
  identified free := toEnvelope_passedOn free
  first := f.id_passedOn
  kept _ later _ given := id_passedOn_append given later

/-- A failure of a kind of its own. -/
def soldOut : Failure :=
  { kind := .custom "SOLD_OUT" { code := 409 }, description := "no parts left" }

/-- A failure of a kind of its own is not changed by three services. -/
theorem forwards_soldOut : ¬soldOut.kind.Overruled ∧
    (forwarded^[3] soldOut).toEnvelope = soldOut.toEnvelope :=
  have free : ¬soldOut.kind.Overruled := by decide
  ⟨free, soldOut.forwards.envelope free 3⟩

/-- A failure of a kind that has the code of bad input, and the status of a missing path. -/
def borrowed : Failure :=
  { kind := .custom "INVALID_PARAMETER" .notFound, description := "no such part" }

/-- The status of an overruled kind is lost at the first service. -/
theorem borrowed_forwarded :
    borrowed.status = .notFound ∧ borrowed.forwarded.status = .badRequest ∧
      borrowed.forwarded.toEnvelope ≠ borrowed.toEnvelope := by
  have found : borrowed.forwarded.status = .badRequest :=
    status_forwarded_of_builtIn (b := .invalidParameter) (by decide) rfl
  refine ⟨rfl, found, fun same => ?_⟩
  have codes : borrowed.forwarded.status.code = borrowed.status.code := congrArg (·.status) same
  rw [found] at codes
  exact absurd codes (by decide)

end Failure

end ApiContract
