import LinkPreview.Text.Blank
import LinkPreview.Text.Utf8

/-!
# Targets of requests

What a request asks for is a path with a query behind it, the same behind a scheme and
an authority, an authority alone, or an asterisk. A fragment is dropped. A path may hold
most characters that stand for themselves in an address, and so may a query; both may hold
any character outside ASCII.
-/

namespace LinkPreview.Http

/-- What a request asks for. -/
structure Target where
  path : String
  query : Option String := none
  deriving DecidableEq, Repr

/-- Whether a character may stand in the name of a method. -/
def isTokenChar (c : Char) : Bool :=
  c.isAlphanum || "!#$%&'*+-.^_\x60|~".toList.contains c

/-- Whether a text can be the name of a method. -/
def isMethod (s : String) : Bool :=
  !s.isEmpty && s.toList.all isTokenChar

namespace Target

/-- The greatest length of a target in bytes. -/
def maxBytes : Nat := 65534

/-- The greatest length of a scheme. -/
def maxScheme : Nat := 64

/-- Whether a character may stand in a path. -/
def isPathChar (c : Char) : Bool :=
  let n := c.toNat
  n == 0x21 || n == 0x22 || (0x24 ≤ n && n ≤ 0x3B) || n == 0x3D || (0x40 ≤ n && n ≤ 0x5F) ||
    0x61 ≤ n

/-- Whether a character may stand in a query. -/
def isQueryChar (c : Char) : Bool :=
  let n := c.toNat
  n == 0x21 || (0x24 ≤ n && n ≤ 0x3B) || n == 0x3D || 0x3F ≤ n

/-- Whether a character may stand in a scheme. -/
def isSchemeChar (c : Char) : Bool :=
  c.isAlphanum || "+-.~".toList.contains c

/-- Whether a character may stand in an authority, besides those that
`Authority.step?` looks at. -/
def isAuthorityChar (c : Char) : Bool :=
  c.isAlphanum || "!$&'()*+,-.;=_~".toList.contains c

/-- Reads a path and a query up to the end or a fragment. -/
def readPath? (s : List Char) : Option Target :=
  let path := s.takeWhile fun c => c != '?' && c != '#'
  if !path.all isPathChar then none
  else
    let shown := if path.isEmpty then "/" else String.ofList path
    match s.drop path.length with
    | '?' :: s =>
      let query := s.takeWhile (· != '#')
      if query.all isQueryChar then some ⟨shown, some (String.ofList query)⟩ else none
    | _ => some ⟨shown, none⟩

/-- Drops a scheme and the colon and slashes behind it, if there is one. A scheme that is
too long is refused. -/
def dropScheme? (s : List Char) : Option (Option (List Char)) :=
  let scheme := s.takeWhile isSchemeChar
  match Text.dropStart? "://".toList (s.drop scheme.length) with
  | some rest =>
    if s.length ≤ 3 then some none
    else if maxScheme < scheme.length then none
    else some (some rest)
  | none => some none

/-- What is known of an authority whose first characters were read. Colons and percent
signs in front of an at sign or inside brackets do not count. -/
structure Authority where
  colons : Nat := 0
  hasOpened : Bool := false
  hasClosed : Bool := false
  hasPercent : Bool := false
  endsInAt : Bool := false

/-- Reads one more character of an authority. -/
def Authority.step? (a : Authority) (c : Char) : Option Authority :=
  let a := { a with endsInAt := c == '@' }
  match c with
  | ':' => if 8 ≤ a.colons then none else some { a with colons := a.colons + 1 }
  | '[' => if a.hasPercent || a.hasOpened then none else some { a with hasOpened := true }
  | ']' =>
    if !a.hasOpened || a.hasClosed then none
    else some { a with hasClosed := true, colons := 0, hasPercent := false }
  | '@' => some { a with colons := 0, hasPercent := false }
  | '%' => some { a with hasPercent := true }
  | c => if isAuthorityChar c then some a else none

/-- Whether an authority may end here. -/
def Authority.isComplete (a : Authority) : Bool :=
  a.hasOpened == a.hasClosed && a.colons ≤ 1 && !a.endsInAt && !a.hasPercent

/-- Reads an authority, which may be empty: what follows it. -/
def dropAuthority? (s : List Char) : Option (List Char) := do
  let written := s.takeWhile fun c => c != '/' && c != '?' && c != '#'
  if (← written.foldlM Authority.step? {}).isComplete then
    return s.drop written.length
  else none

/-- Reads a target. -/
def read? (text : String) : Option Target := do
  let s := text.toList
  if maxBytes < (Text.Utf8.encode s).length then none
  else if s.head? = some '/' then readPath? s
  else if s = ['*'] then some ⟨"*", none⟩
  else if s.isEmpty then none
  else
    match ← dropScheme? s with
    | none => if (← dropAuthority? s).isEmpty then some ⟨"", none⟩ else none
    | some rest =>
      let path ← dropAuthority? rest
      if path.length = rest.length then none else readPath? path

end Target

end LinkPreview.Http
