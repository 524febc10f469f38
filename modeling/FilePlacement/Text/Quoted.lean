import FilePlacement.Text.Numeral
import FilePlacement.Unicode.Printable

/-!
# Quoted texts

How a text or a list of texts is shown inside an audit event or a warning: in double quotes, with
an escape for every character that does not show on a page, or not without the one before it.
-/

namespace FilePlacement.Text

/-- How one character is written between the quotes. -/
def quotedChar (c : Char) : List Char :=
  match c with
  | '"' => ['\\', '"']
  | '\\' => ['\\', '\\']
  | '\n' => ['\\', 'n']
  | '\r' => ['\\', 'r']
  | '\t' => ['\\', 't']
  | '\x00' => ['\\', '0']
  | c =>
    if Unicode.isPrintable c && !Unicode.isExtending c then [c]
    else ['\\', 'u', '\x7b'] ++ digits 16 c.toNat ++ ['\x7d']

/-- A text in double quotes. -/
def quoted (s : String) : String :=
  String.ofList ('"' :: s.toList.flatMap quotedChar ++ ['"'])

/-- Texts in double quotes, between brackets. -/
def quotedList (ss : List String) : String :=
  "[" ++ ", ".intercalate (ss.map quoted) ++ "]"

end FilePlacement.Text
