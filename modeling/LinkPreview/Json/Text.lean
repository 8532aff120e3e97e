import LinkPreview.Json.Token
import LinkPreview.Text.Numeral
import LinkPreview.Text.Utf8

/-!
# Strings of a JSON text

What a string says is written with a backslash in front of the quote, the backslash and
the control characters, and everything else stands as it is. A reader knows more ways
of writing: a slash may have a backslash too, and any character may be written as its
UTF-16 code units.
-/

namespace LinkPreview.Json

open Text

/-- A code unit in four hexadecimal digits. -/
def codeUnit (n : Nat) : List Char :=
  ['\\', 'u'] ++ padLeft 4 (hex n)

/-- A character as it stands in a string. -/
def escapeChar (c : Char) : List Char :=
  match c with
  | '"' => ['\\', '"']
  | '\\' => ['\\', '\\']
  | '\x08' => ['\\', 'b']
  | '\x0c' => ['\\', 'f']
  | '\n' => ['\\', 'n']
  | '\r' => ['\\', 'r']
  | '\t' => ['\\', 't']
  | c => if c < ' ' then codeUnit c.toNat else [c]

/-- What is written in a string that says the given text. -/
def escape (s : List Char) : List Char :=
  s.flatMap escapeChar

/-- The character that a letter behind a backslash stands for. -/
def escapedLetter? (c : Char) : Option Char :=
  match c with
  | '"' => some '"'
  | '\\' => some '\\'
  | '/' => some '/'
  | 'b' => some '\x08'
  | 'f' => some '\x0c'
  | 'n' => some '\n'
  | 'r' => some '\r'
  | 't' => some '\t'
  | _ => none

/-- Whether a code unit is the first one of a pair. -/
def isHighSurrogate (n : Nat) : Bool :=
  0xD800 ≤ n && n ≤ 0xDBFF

/-- Whether a code unit is the second one of a pair. -/
def isLowSurrogate (n : Nat) : Bool :=
  0xDC00 ≤ n && n ≤ 0xDFFF

/-- The text that a string says. A code unit of a pair must have its other half. -/
def unescape? : List Char → Option (List Char)
  | [] => some []
  | '\\' :: 'u' :: a :: b :: c :: d :: s => do
    let unit ← readNumeral? 16 [a, b, c, d]
    if isLowSurrogate unit then none
    else if isHighSurrogate unit then
      match s with
      | '\\' :: 'u' :: e :: f :: g :: h :: s => do
        let second ← readNumeral? 16 [e, f, g, h]
        if isLowSurrogate second then
          let code := 0x10000 + (unit - 0xD800) * 0x400 + (second - 0xDC00)
          return Char.ofNat code :: (← unescape? s)
        else none
      | _ => none
    else return Char.ofNat unit :: (← unescape? s)
  | '\\' :: e :: s => return (← escapedLetter? e) :: (← unescape? s)
  | ['\\'] => none
  | c :: s => return c :: (← unescape? s)

end LinkPreview.Json
