import ApiContract.Cli.Options
import ApiContract.Decimal.Read

/-!
# Commands

    serve [--apis DIR] [--ignore NAME]... [--port PORT] [--config FILE] [--env NAME] [--force]
    check DIR [--emit DIR] [--allow-unbound] [--ignore NAME]...

## Main definitions

* `ServeArguments`, `CheckArguments` — the arguments of the commands
* `Command.read` — the command that words give
-/

namespace ApiContract

/-- The arguments of `serve`, which take precedence over the configuration. -/
structure ServeArguments where
  apis : Option String := none
  ignored : List String := []
  port : Option Nat := none
  config : Option String := none
  env : Option String := none
  force : Bool := false
  deriving DecidableEq, Repr

/-- The arguments of `check`. -/
structure CheckArguments where
  directory : String := ""
  ignored : List String := []
  /-- Where the compiled models are written. -/
  emit : Option String := none
  /-- Whether operations without a handler are accepted. -/
  allowUnbound : Bool := false
  deriving DecidableEq, Repr

/-- A command. -/
inductive Command where
  | serve (arguments : ServeArguments)
  | check (arguments : CheckArguments)
  deriving DecidableEq, Repr

namespace Command

/-- A path, which is not empty. -/
def pathValue (s : String) : Except UsageFault String :=
  if s.isEmpty then .error .missingValue else .ok s

/-- A port. -/
def portValue (s : String) : Except UsageFault Nat :=
  match Decimal.readInteger? s with
  | some n => if 0 ≤ n ∧ n < Decimal.bound 16 then .ok n.toNat else .error .invalidValue
  | none => .error .invalidValue

/-- What `serve` takes. -/
def serveSpec : CommandSpec ServeArguments where
  start := {}
  options := [
    ⟨"apis", .value false fun s a => (pathValue s).map fun p => { a with apis := some p }⟩,
    ⟨"ignore", .value true fun s a => .ok { a with ignored := a.ignored ++ [s] }⟩,
    ⟨"port", .value false fun s a => (portValue s).map fun n => { a with port := some n }⟩,
    ⟨"config", .value false fun s a => (pathValue s).map fun p => { a with config := some p }⟩,
    ⟨"env", .value false fun s a => .ok { a with env := some s }⟩,
    ⟨"force", .flag fun a => { a with force := true }⟩]

/-- What `check` takes. -/
def checkSpec : CommandSpec CheckArguments where
  start := {}
  options := [
    ⟨"emit", .value false fun s a => (pathValue s).map fun p => { a with emit := some p }⟩,
    ⟨"allow-unbound", .flag fun a => { a with allowUnbound := true }⟩,
    ⟨"ignore", .value true fun s a => .ok { a with ignored := a.ignored ++ [s] }⟩]
  argument := some fun s a => (pathValue s).map ({ a with directory := · })

/-- The names of the commands. -/
def names : List String := ["serve", "check", "help"]

/-- What the words after `help` ask for: the commands take no commands of their own. -/
def readHelp : List String → UsageFault
  | [] => .help
  | [name] => if names.contains name then .help else .unknownCommand
  | _ => .unknownCommand

/-- What is wrong with words that come after two dashes and before a command. -/
def readEscaped : List String → UsageFault
  | [] => .nothingGiven
  | word :: _ => if names.contains word then .unknownArgument else .unknownCommand

/-- The command that words give. -/
def read : List String → Except UsageFault Command
  | [] => .error .nothingGiven
  | "serve" :: rest => (serveSpec.read rest).map .serve
  | "check" :: rest => (checkSpec.read rest).map .check
  | "help" :: rest => .error (readHelp rest)
  | word :: rest =>
    .error (match Token.ofWord word with
      | .escape => readEscaped rest
      | .long "help" none | .short ('h' :: _) => .help
      | .long "version" none | .short ('V' :: _) => .version
      | .long "help" _ | .long "version" _ => .unexpectedValue
      | .long .. | .short _ => .unknownArgument
      | .word _ => .unknownCommand)

/-- What commands look like. -/
def usage : String :=
  "Usage:\n" ++
  "  ptolemy serve [--apis DIR] [--ignore NAME]... [--port PORT] [--config FILE]\n" ++
  "                [--env NAME] [--force]\n" ++
  "  ptolemy check DIR [--emit DIR] [--allow-unbound] [--ignore NAME]...\n"

end Command

end ApiContract
