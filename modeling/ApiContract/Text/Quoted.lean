import ApiContract.Text.Blank
import ApiContract.Text.Hex
import ApiContract.Text.Hidden

/-!
# Quoted text

Summaries of parts of the service show texts in double quotes. Quotes, backslashes and line
ends are escaped, and so is every character that would not show.

## Main definitions

* `Text.quoted` — a text in double quotes
* `Text.listed` — summaries in brackets
-/

namespace ApiContract.Text

/-- A character inside double quotes. -/
def quotedChar (c : Char) : List Char :=
  match c with
  | '"' => ['\\', '"']
  | '\\' => ['\\', '\\']
  | '\x00' => ['\\', '0']
  | '\t' => ['\\', 't']
  | '\n' => ['\\', 'n']
  | '\r' => ['\\', 'r']
  | c =>
    if isHidden c then ['\\', 'u', '\x7b'] ++ (Hex.ofNat c.toNat).toList ++ ['\x7d'] else [c]

/-- A text in double quotes. -/
def quoted (s : String) : String :=
  String.ofList ('"' :: s.toList.flatMap quotedChar ++ ['"'])

/-- Summaries in brackets. -/
def listed (summaries : List String) : String :=
  "[" ++ join ", " summaries ++ "]"

end ApiContract.Text
