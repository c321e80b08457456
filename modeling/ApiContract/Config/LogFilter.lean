import ApiContract.Decimal.Read
import ApiContract.Text.Utf8
import ApiContract.Text.Word

/-!
# Filters of log records

A filter is a list of directives with commas between them. A directive is a level, or names a
target, a span with fields in brackets, or both, and then perhaps a level after an equals
sign:

    target[span{field=value}]=level

Blanks around a directive do not count for its structure, but they do count in its level.

## Main definitions

* `LogFilter.isLevel` — names and numbers of levels
* `LogFilter.Place` — where the reading of a directive stands
* `LogFilter.accepts` — whether a text is a filter
-/

namespace ApiContract.LogFilter

/-- Whether a text is a level: a name in letters of either case, or a number up to 5. -/
def isLevel (s : String) : Bool :=
  (Decimal.readNatBelow? 6 s).isSome ||
    ["trace", "debug", "info", "warn", "error", "off"].any (Text.eqIgnoreCase s)

/-- Where the reading of a directive stands. A level stands at an offset in bytes; of a field
it is known whether it is still empty. -/
inductive Place where
  | start
  | target
  | span
  | field (isEmpty : Bool)
  | afterFields
  | afterSpan
  | level (offset : Nat)
  deriving DecidableEq, Repr

/-- Characters that may start a target. -/
def startsTarget (c : Char) : Bool :=
  Text.isWordChar c || ['-', ':', '_'].contains c

/-- The place after one more character, which ends `next` bytes into the directive. -/
def Place.step (next : Nat) (c : Char) : Place → Option Place
  | .start =>
    if c = '[' then some .span
    else if startsTarget c then some .target
    else none
  | .target =>
    if c = '=' then some (.level next)
    else if c = '[' then some .span
    else some .target
  | .span =>
    if c = ']' then some .afterSpan
    else if c = '\x7b' then some (.field true)
    else some .span
  | .field isEmpty =>
    if c = '\x7d' then (if isEmpty then none else some .afterFields)
    else some (.field false)
  | .afterFields => if c = ']' then some .afterSpan else none
  | .afterSpan => if c = '=' then some (.level next) else none
  | .level n => some (.level n)

/-- The place at which the reading of a text ends. -/
def Place.run : Nat → Place → List Char → Option Place
  | _, place, [] => some place
  | offset, place, c :: rest => do
    let next := offset + c.utf8Size
    run next (← place.step next c) rest

/-- Whether a text is a directive. The place of its level is counted in the text without
blanks around it, but the level is cut from the text with them. -/
def isDirective (s : String) : Bool :=
  match Place.run 0 .start (Text.trim s).toList with
  | some .target | some .afterSpan => true
  | some (.level offset) =>
    let level := Utf8.decodeLossy ((Utf8.encode s).drop offset)
    level.isEmpty || isLevel level
  | _ => false

/-- Whether a text is a filter. -/
def accepts (s : String) : Bool :=
  ((Text.split s ',').filter (· ≠ "")).all isDirective

/-- Why a text is no filter. -/
def problem (s : String) : String :=
  s!"invalid logging configuration: invalid log level '{s}': *"

end ApiContract.LogFilter
