/-!
# Spans of time

## Main definitions

* `Span.describe` — a span in logs
-/

namespace ApiContract.Span

/-- Thousandths without the zeros at the end. -/
def fraction (thousandths : Nat) : List Char :=
  let digits := (toString (1000 + thousandths)).toList.drop 1
  (digits.reverse.dropWhile (· == '0')).reverse

/-- A span in milliseconds, in logs: in seconds with a fraction, or in milliseconds when it is
shorter than a second. -/
def describe (ms : Nat) : String :=
  if ms = 0 then "0ns"
  else if ms < 1000 then s!"{ms}ms"
  else
    let digits := fraction (ms % 1000)
    let point := if digits.isEmpty then "" else "."
    s!"{ms / 1000}{point}{String.ofList digits}s"

end ApiContract.Span
