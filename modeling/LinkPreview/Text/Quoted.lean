import LinkPreview.Text.Numeral
import LinkPreview.Text.Unprintable

/-!
# Quoted texts

A quoted text stands between double quotes. Tab, line feed, carriage return and
NUL have letters of their own, the quote and the backslash are written after a
backslash, and every other character that would not show is written as its code
point in braces. An apostrophe stands as it is.
-/

namespace LinkPreview.Text

/-- One character inside a quoted text. -/
def quoteChar (c : Char) : List Char :=
  match c with
  | '\x00' => ['\\', '0']
  | '\t' => ['\\', 't']
  | '\r' => ['\\', 'r']
  | '\n' => ['\\', 'n']
  | '\\' => ['\\', '\\']
  | '"' => ['\\', '"']
  | c =>
    if unprintable.contains c then ['\\', 'u', '\x7b'] ++ hex c.toNat ++ ['\x7d'] else [c]

/-- A text in double quotes. -/
def quoted (s : String) : String :=
  String.ofList ('"' :: (s.toList.flatMap quoteChar ++ ['"']))

end LinkPreview.Text
