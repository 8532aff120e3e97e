import LinkPreview.Http.Target

/-!
# Media types

A media type is two names with a slash between them, and parameters behind. Only the
charset counts for a page.
-/

namespace LinkPreview.Http.MediaType

/-- Whether a character may stand between quotes. -/
def isQuotable (c : Char) : Bool :=
  31 < c.toNat && c.toNat != 127

/-- Reads a value in quotes behind the first one. A quote that comes first is a part of
the value. -/
def readQuoted? : List Char → Option (List Char × List Char)
  | [] => none
  | c :: s =>
    let more := s.takeWhile (· != '"')
    match s.drop more.length with
    | [] => none
    | _ :: rest => if (c :: more).all isQuotable then some (c :: more, rest) else none

/-- Reads a value, with what follows the semicolon behind it. -/
def readValue? (s : List Char) : Option (List Char × List Char) :=
  match s with
  | '"' :: s => do
    let (value, rest) ← readQuoted? s
    match rest.dropWhile (· == ' ') with
    | [] => some (value, [])
    | ';' :: rest => some (value, rest)
    | _ => none
  | s =>
    let value := s.takeWhile isTokenChar
    match s.drop value.length with
    | [] => some (value, [])
    | ';' :: rest => if value.isEmpty then none else some (value, rest)
    | _ => none

/-- Reads a name and the equals sign behind it. -/
def readName? (s : List Char) : Option (List Char × List Char) :=
  let name := s.takeWhile isTokenChar
  match s.drop name.length with
  | '=' :: rest => if name.isEmpty then none else some (name, rest)
  | _ => none

/-- Reads parameters. -/
def readParameters? (fuel : Nat) (s : List Char) : Option (List (List Char × List Char)) :=
  match fuel, s.dropWhile (· == ' ') with
  | _, [] => some []
  | 0, _ => none
  | fuel + 1, s => do
    let (name, rest) ← readName? s
    let (value, rest) ← readValue? rest
    return (name, value) :: (← readParameters? fuel rest)

/-- Reads the two names, with what follows the semicolon or the space behind them. -/
def readNames? (s : List Char) : Option (List Char) := do
  let type := s.takeWhile isTokenChar
  if type.isEmpty then none
  else
    let rest ← Text.dropStart? ['/'] (s.drop type.length)
    let subtype := rest.takeWhile isTokenChar
    match rest.drop subtype.length with
    | [] => some []
    | c :: rest => if (c == ';' || c == ' ') && !subtype.isEmpty then some rest else none

/-- The charset that a media type gives. -/
def charset? (s : List Char) : Option (List Char) := do
  let parameters ← readParameters? s.length (← readNames? s)
  (parameters.find? fun (name, _) => Text.eqIgnoringAsciiCase name "charset".toList).map (·.2)

end LinkPreview.Http.MediaType
