import LinkPreview.Text.Blank
import LinkPreview.Url.Address

/-!
# Reading addresses

`Url.read?` reads an address as browsers do. Blanks and controls around it and tabs
and line ends in it do not count, special schemes take backslashes for slashes and
find a host behind any number of slashes, and dot segments of a path are resolved. A
relative address is read against the address that it stands in.
-/

namespace LinkPreview.Url

/-- The text of an address that counts: without controls and spaces around it, and
without tabs and line ends. -/
def significant (s : List Char) : List Char :=
  (Text.trimBoth (·.toNat ≤ 0x20) s).filter fun c => !(['\t', '\n', '\r'].contains c)

/-- Whether a character may stand in a scheme behind its first letter. -/
def inScheme (c : Char) : Bool :=
  c.isAlphanum || ['+', '-', '.'].contains c

/-- Reads a scheme and its colon: the scheme, and the text behind. -/
def readScheme? (s : List Char) : Option (String × List Char) :=
  match s with
  | c :: _ =>
    if c.isAlpha then
      match s.dropWhile inScheme with
      | ':' :: rest => some (String.ofList (Text.asciiLower (s.takeWhile inScheme)), rest)
      | _ => none
    else none
  | [] => none

/-- Whether a character is a slash in addresses of this kind. -/
def isSlash (kind : SchemeKind) (c : Char) : Bool :=
  c == '/' || (kind != .other && c == '\\')

/-- Whether a character ends the part with the host. -/
def endsAuthority (kind : SchemeKind) (c : Char) : Bool :=
  isSlash kind c || c == '?' || c == '#'

/-- Reads a query and a fragment into an address. -/
def readQuery (kind : SchemeKind) (u : Url) (s : List Char) : Url :=
  let write (p : Char → Bool) (t : List Char) := String.ofList (percentEncode p t)
  let fragment := match s.dropWhile (· != '#') with
    | '#' :: rest => some (write notInFragment rest)
    | _ => none
  let query := match s.takeWhile (· != '#') with
    | '?' :: rest =>
      some (write (if kind == .other then notInQuery else notInSpecialQuery) rest)
    | _ => none
  { u with query, fragment }

/-- Whether a segment stands for the one it is in. -/
def isSingleDot (segment : List Char) : Bool :=
  [".", "%2e"].contains (String.ofList (Text.asciiLower segment))

/-- Whether a segment stands for the one above. -/
def isDoubleDot (segment : List Char) : Bool :=
  ["..", ".%2e", "%2e.", "%2e%2e"].contains (String.ofList (Text.asciiLower segment))

/-- Whether a segment is a letter and a colon, as a drive is named. -/
def isDrive (segment : List Char) : Bool :=
  match segment with
  | [c, ':'] => c.isAlpha
  | [c, '|'] => c.isAlpha
  | _ => false

/-- A path without its last segment. The drive of a file stays. -/
def shorten (kind : SchemeKind) (path : List String) : List String :=
  match path with
  | [only] => if kind == .file && isDrive only.toList then path else []
  | _ => path.dropLast

/-- Adds a segment to a path. Dot segments are resolved; at the end they leave an empty
segment. -/
def addSegment (kind : SchemeKind) (isLast : Bool) (path : List String)
    (segment : List Char) : List String :=
  if isDoubleDot segment then shorten kind path ++ (if isLast then [""] else [])
  else if isSingleDot segment then path ++ (if isLast then [""] else [])
  else if kind == .file && path.isEmpty && isDrive segment then
    [String.ofList (segment.take 1 ++ [':'])]
  else path ++ [String.ofList (percentEncode notInPath segment)]

/-- Adds the segments of a path, given in order. -/
def addSegments (kind : SchemeKind) (path : List String) :
    List (List Char) → List String
  | [] => path
  | [segment] => addSegment kind true path segment
  | segment :: rest => addSegments kind (addSegment kind false path segment) rest

/-- Whether a character goes on with a path. -/
def inPath (c : Char) : Bool :=
  !(c == '?' || c == '#')

/-- Reads a path whose first slash is read already, below `above`, and then a query and
a fragment. -/
def readPath (kind : SchemeKind) (u : Url) (above : List String) (s : List Char) : Url :=
  let segments := Text.splitWhere (isSlash kind) (s.takeWhile inPath)
  let path := addSegments kind above segments
  let path := if kind == .file then
      match path.dropWhile (· == "") with
      | [] => [""]
      | rest => rest
    else path
  readQuery kind { u with path := .segments path } (s.dropWhile inPath)

/-- Reads what follows the host. -/
def readPathStart (kind : SchemeKind) (u : Url) (s : List Char) : Url :=
  match s with
  | [] => if kind == .other then u else { u with path := .segments [""] }
  | c :: rest =>
    if isSlash kind c then readPath kind u [] rest
    else if kind == .other then readQuery kind u s
    else readPath kind u [] s

/-- The text behind the last at sign, and the text in front of it. -/
def splitAtLastAt (s : List Char) : Option (List Char × List Char) :=
  if s.contains '@' then
    let behind := (s.reverse.takeWhile (· != '@')).reverse
    some (s.take (s.length - behind.length - 1), behind)
  else none

/-- Reads a user name and a password. -/
def readUserInfo (u : Url) (s : List Char) : Url :=
  let write (t : List Char) := String.ofList (percentEncode notInUserInfo t)
  { u with
    username := write (s.takeWhile (· != ':'))
    password := write ((s.dropWhile (· != ':')).drop 1) }

/-- The host at the front, up to a colon that is not in brackets, and the text behind
it. -/
def splitHost (inBrackets : Bool) : List Char → List Char × List Char
  | [] => ([], [])
  | c :: s =>
    if c == ':' && !inBrackets then ([], c :: s)
    else
      let (host, rest) := splitHost (c == '[' || (inBrackets && c != ']')) s
      (c :: host, rest)

/-- Reads a port: nothing, or a colon and a number that may be missing. -/
def readPort? (scheme : String) (s : List Char) : Option (Option Nat) :=
  match s with
  | [] => some none
  | [':'] => some none
  | ':' :: digits =>
    match (Text.readNumeral? 10 digits).filter (· < UInt16.size) with
    | some n => some (if defaultPort? scheme = some n then none else some n)
    | none => none
  | _ => none

/-- Reads an address behind the two slashes in front of its host. -/
def readAuthority? (scheme : String) (s : List Char) : Option Url := do
  let kind := schemeKind scheme
  let authority := s.takeWhile (!endsAuthority kind ·)
  let rest := s.dropWhile (!endsAuthority kind ·)
  let (userInfo, hostPort) := match splitAtLastAt authority with
    | some (userInfo, hostPort) => (some userInfo, hostPort)
    | none => (none, authority)
  let (hostText, portText) := splitHost false hostPort
  if hostText.isEmpty && (kind == .special || userInfo.isSome || !portText.isEmpty) then none
  let host ← if kind == .special then Host.readSpecial? hostText else Host.readOpaque? hostText
  let port ← readPort? scheme portText
  let u := readUserInfo { scheme, host := some host, port } (userInfo.getD [])
  return readPathStart kind u rest

/-- Reads the address of a file behind the two slashes in front of its host. -/
def readFileHost? (s : List Char) : Option Url := do
  let text := s.takeWhile (!endsAuthority .file ·)
  let rest := s.dropWhile (!endsAuthority .file ·)
  if isDrive text then return readPath .file { scheme := "file" } [] s
  else if text.isEmpty then return readPathStart .file { scheme := "file" } rest
  else
    let host ← Host.readSpecial? text
    let host := if host = .domain "localhost" then none else some host
    return readPathStart .file { scheme := "file", host } rest

/-- Reads the address of a file behind the scheme. -/
def readFile? (base : Option Url) (s : List Char) : Option Url :=
  match s with
  | a :: b :: rest =>
    if isSlash .file a && isSlash .file b then readFileHost? rest
    else if isSlash .file a then
      some (readPath .file { scheme := "file", host := base.bind (·.host) } [] (b :: rest))
    else some (relative s)
  | [a] =>
    if isSlash .file a then
      some (readPath .file { scheme := "file", host := base.bind (·.host) } [] [])
    else some (relative s)
  | [] => some (relative s)
where
  /-- Reads a path that does not start with a slash. -/
  relative (s : List Char) : Url :=
    match base with
    | some b =>
      let above := match b.path with
        | .segments list => list
        | .flat _ => []
      match s with
      | [] => { b with fragment := none }
      | '?' :: _ => readQuery .file { b with query := none } s
      | '#' :: _ => { readQuery .file b s with query := b.query }
      | _ =>
        if isDrive (s.take 2) then readPath .file { scheme := "file" } [] s
        else readPath .file { scheme := "file", host := b.host } (shorten .file above) s
    | none => readPath .file { scheme := "file" } [] s

/-- Reads a relative address against one whose path has segments. -/
def readRelative? (base : Url) (above : List String) (s : List Char) : Option Url :=
  let kind := schemeKind base.scheme
  match s with
  | [] => some { base with fragment := none }
  | '?' :: _ => some (readQuery kind base s)
  | '#' :: _ => some { readQuery kind base s with query := base.query }
  | a :: rest =>
    if isSlash kind a then
      match rest with
      | b :: behind =>
        if isSlash kind b then
          readAuthority? base.scheme
            (if kind == .special then behind.dropWhile (isSlash kind) else behind)
        else some (readPath kind base [] rest)
      | [] => some (readPath kind base [] rest)
    else some (readPath kind base (shorten kind above) s)

/-- Reads what follows a scheme. -/
def readBehindScheme? (base : Option Url) (scheme : String) (s : List Char) : Option Url :=
  match schemeKind scheme with
  | .file => readFile? (base.filter (·.scheme == "file")) s
  | .special =>
    let slashes := (s.takeWhile (isSlash .special)).length
    match base with
    | some ({ path := .segments above, .. } : Url) =>
      let b := base.getD { scheme }
      if b.scheme == scheme && slashes < 2 then readRelative? b above s
      else readAuthority? scheme (s.dropWhile (isSlash .special))
    | _ => readAuthority? scheme (s.dropWhile (isSlash .special))
  | .other =>
    match s with
    | '/' :: '/' :: rest => readAuthority? scheme rest
    | '/' :: rest => some (readPath .other { scheme } [] rest)
    | _ =>
      let text := percentEncode isControl (s.takeWhile inPath)
      some (readQuery .other { scheme, path := .flat (String.ofList text) } (s.dropWhile inPath))

/-- Reads an address, a relative one against `base`. -/
def readAgainst? (base : Option Url) (text : String) : Option Url :=
  let s := significant text.toList
  match readScheme? s with
  | some (scheme, rest) => readBehindScheme? base scheme rest
  | none =>
    match base with
    | none => none
    | some b =>
      match b.path, s with
      | .flat _, '#' :: _ => some { readQuery .other b s with query := b.query }
      | .flat _, _ => none
      | .segments above, _ =>
        if b.scheme = "file" then readFile? base s else readRelative? b above s

/-- Reads an address. -/
def read? (text : String) : Option Url :=
  readAgainst? none text

/-- Reads an address that stands in the page at `base`. -/
def join? (base : Url) (text : String) : Option Url :=
  readAgainst? (some base) text

end LinkPreview.Url
