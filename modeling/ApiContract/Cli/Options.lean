import ApiContract.Text.Blank

/-!
# Options of a command

A command takes flags, options with a value, and at most one argument without a name. Words
are read from left to right. The value of an option is taken into account only when the next
option, the next argument or the end comes, so that a fault before that wins.

## Main definitions

* `UsageFault` — why words are no command
* `Token.ofWord` — what a word looks like
* `OptionSpec`, `CommandSpec` — what a command takes
* `CommandSpec.read` — the arguments of a command
-/

namespace ApiContract

/-- Why words are no command, or what they ask for instead. -/
inductive UsageFault where
  | help
  | version
  | nothingGiven
  | unknownCommand
  | unknownArgument
  | missingArgument
  | missingValue
  | invalidValue
  | unexpectedValue
  | repeated
  deriving DecidableEq, Repr

/-- What a word looks like. -/
inductive Token where
  /-- Two dashes: only arguments without names follow. -/
  | escape
  | long (name : String) (value : Option String)
  | short (letters : List Char)
  | word (text : String)
  deriving DecidableEq, Repr

namespace Token

/-- What a word looks like. A dash alone is like any other word. -/
def ofWord (s : String) : Token :=
  match s.toList with
  | ['-', '-'] => .escape
  | '-' :: '-' :: rest =>
    match Text.breakOnce (· == '=') rest with
    | some (name, value) => .long (String.ofList name) (some (String.ofList value))
    | none => .long (String.ofList rest) none
  | '-' :: c :: rest => .short (c :: rest)
  | _ => .word s

end Token

/-- What an option does to the arguments. -/
inductive OptionAction (α : Type) where
  | flag (set : α → α)
  | value (repeats : Bool) (set : String → α → Except UsageFault α)

/-- An option: its name, and what it does. -/
structure OptionSpec (α : Type) where
  name : String
  action : OptionAction α

/-- What a command takes: options, and perhaps an argument without a name, which then must be
there. -/
structure CommandSpec (α : Type) where
  start : α
  options : List (OptionSpec α)
  argument : Option (String → α → Except UsageFault α) := none

/-- An option that was met, with its value if that has been met too. The argument without a
name is such an option under an empty name. -/
structure Pending (α : Type) where
  name : String
  repeats : Bool
  set : String → α → Except UsageFault α
  value : Option String

/-- What has been read of a command. -/
structure CommandReading (α : Type) where
  result : α
  given : List String := []
  pending : Option (Pending α) := none
  escaped : Bool := false

namespace CommandReading

variable {α : Type}

/-- Notes a name that is given; most may be given only once. -/
def note (r : CommandReading α) (repeats : Bool) (name : String) :
    Except UsageFault (CommandReading α) :=
  if !repeats && r.given.contains name then .error .repeated
  else .ok { r with given := name :: r.given }

/-- Takes the option into account that was met last. -/
def settle (r : CommandReading α) : Except UsageFault (CommandReading α) := do
  let some p := r.pending | return r
  let some value := p.value | .error .missingValue
  let r ← { r with pending := none }.note p.repeats p.name
  return { r with result := ← p.set value r.result }

/-- A word that is the value of the option before it, if that still needs one. -/
def takeValue? (r : CommandReading α) (word : String) : Option (CommandReading α) :=
  match r.pending with
  | some p =>
    if p.value.isNone && !r.escaped then some { r with pending := some { p with value := word } }
    else none
  | none => none

/-- Takes an argument without a name. -/
def takeArgument (spec : CommandSpec α) (r : CommandReading α) (word : String) :
    Except UsageFault (CommandReading α) :=
  let isTaken := r.given.contains "" || r.pending.any (·.name == "")
  match spec.argument with
  | some set =>
    if isTaken then .error .unknownArgument
    else do
      return { ← r.settle with
        pending := some { name := "", repeats := false, set, value := some word } }
  | none => .error .unknownArgument

/-- Takes an option by its name, and its value if that is in the same word. -/
def takeOption (spec : CommandSpec α) (r : CommandReading α) (name : String)
    (value : Option String) : Except UsageFault (CommandReading α) :=
  if name = "help" then
    if value.isSome then .error .unexpectedValue else r.settle.bind fun _ => .error .help
  else match spec.options.find? (·.name == name), value with
    | none, _ => .error .unknownArgument
    | some { action := .flag _, .. }, some _ => .error .unexpectedValue
    | some { action := .flag set, .. }, none => do
      let r ← (← r.settle).note false name
      return { r with result := set r.result }
    | some { action := .value repeats set, .. }, value => do
      let r := { ← r.settle with pending := some { name, repeats, set, value } }
      if value.isSome then r.settle else return r

/-- Takes a word. -/
def step (spec : CommandSpec α) (r : CommandReading α) (word : String) :
    Except UsageFault (CommandReading α) :=
  if r.escaped then r.takeArgument spec word
  else match Token.ofWord word with
    | .escape => .ok { r with escaped := true }
    | .long name value => r.takeOption spec name value
    | .short ('h' :: _) => r.takeOption spec "help" none
    | .short _ => .error .unknownArgument
    | .word text =>
      match r.takeValue? text with
      | some r => .ok r
      | none => r.takeArgument spec text

end CommandReading

/-- The arguments of a command. -/
def CommandSpec.read {α : Type} (spec : CommandSpec α) (words : List String) :
    Except UsageFault α := do
  let r ← words.foldlM (CommandReading.step spec) { result := spec.start }
  let r ← r.settle
  if spec.argument.isSome && !r.given.contains "" then .error .missingArgument
  else return r.result

end ApiContract
