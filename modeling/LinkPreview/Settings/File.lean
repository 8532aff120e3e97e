import LinkPreview.Settings
import LinkPreview.Text.Alphanumeric
import LinkPreview.Text.Utf8

/-!
# Variables from a file

Variables that the environment does not set may be set by a file of assignments. A line
of the file ends at a line end outside quotes, or in front of a comment, which begins with
a number sign at the start of a line or behind a blank. The first line that cannot be
read ends the reading: the assignments before it count, and those behind it do not.

A value may name variables by a dollar sign. They have the value that they have when the
line is reached, and none if they have none.

## Implementation notes

The lines are loaded into the environment of the process one after another, so that each is read
with the variables that those before it have set, and the environment is what it has become when
the settings are read a second time. No variable can have a value with a zero character in it: to
set one ends the process.
-/

namespace LinkPreview.Settings

/-- The variables of a process. A value consists of bytes, which need not be text. -/
abbrev Environment := String → Option (List UInt8)

namespace Environment

/-- The variables whose values are text. -/
def text (e : Environment) : Lookup := fun key =>
  ((e key).bind Text.Utf8.decode?).map String.ofList

/-- Sets a variable. -/
def set (e : Environment) (key value : String) : Environment := fun other =>
  if other = key then some (Text.Utf8.encode value.toList) else e other

end Environment

namespace File

open Text

/-- What a character of a line stands in, for the sake of finding the end of the line. -/
inductive Context where
  | plain
  | blank
  | escape
  | strong
  | strongEscape
  | weak
  | weakEscape
  deriving DecidableEq, Repr

/-- The context behind a character that stands outside quotes. -/
def Context.outside (c : Char) : Context :=
  if c = '\\' then escape else if c = '"' then weak else if c = '\'' then strong else plain

/-- The context behind a character. -/
def Context.next (context : Context) (c : Char) : Context :=
  match context with
  | plain => if isBlank c && c != '\n' && c != '\r' then blank else outside c
  | blank => outside c
  | escape => plain
  | strong => if c = '\\' then strongEscape else if c = '\'' then plain else strong
  | strongEscape => strong
  | weak => if c = '\\' then weakEscape else if c = '"' then plain else weak
  | weakEscape => weak

/-- How far a line of text goes on: it ends in a context, or a comment begins behind what
was kept of it. -/
inductive Extent where
  | ends (context : Context)
  | comment (kept : List Char)
  deriving DecidableEq, Repr

/-- Looks for the end of a line of text. -/
def extent (context : Context) : List Char → Extent
  | [] => .ends context
  | c :: s =>
    if context = .blank && c = '#' then .comment []
    else
      match extent (context.next c) s with
      | .ends last => .ends last
      | .comment kept => .comment (c :: kept)

/-- Cuts bytes behind every line feed. -/
def cut : List UInt8 → List (List UInt8)
  | [] => []
  | b :: s =>
    if b = 0x0A then [b] :: cut s
    else
      match cut s with
      | [] => [[b]]
      | line :: lines => (b :: line) :: lines

/-- A line without its line end. -/
def dropLineEnd (s : List Char) : List Char :=
  match s.reverse with
  | '\n' :: '\r' :: rest => rest.reverse
  | '\n' :: rest => rest.reverse
  | _ => s

/-- Joins lines of text whose end is quoted with those behind them. A line that is not
text, or has no end, is unreadable. -/
def join (context : Context) (begun : List Char) :
    List (Option (List Char)) → List (Option (List Char))
  | [] => if context = .plain then [] else [none]
  | none :: _ => [none]
  | some line :: rest =>
    let whole := begun ++ line
    if (whole.dropWhile isBlank).head? = some '#' then some [] :: join .plain [] rest
    else
      match extent context line with
      | .comment kept => some (begun ++ kept) :: join .plain [] rest
      | .ends .plain => some (dropLineEnd whole) :: join .plain [] rest
      | .ends last => join last whole rest

/-- The lines of a file; a mark of the byte order in front is dropped. -/
def lines (s : List UInt8) : List (Option (List Char)) :=
  let s := match s with
    | 0xEF :: 0xBB :: 0xBF :: rest => rest
    | _ => s
  join .plain [] ((cut s).map Utf8.decode?)

/-- What a character of a value stands in. The name of a variable is kept, the latest
character first; it may stand inside double quotes. -/
inductive Mode where
  | plain
  | strong
  | weak
  | escape (isWeak : Bool)
  | name (isWeak : Bool) (name : List Char)
  | braced (isWeak : Bool) (name : List Char)
  | blank
  deriving DecidableEq, Repr

/-- Outside the names of variables, inside double quotes or not. -/
def Mode.base (isWeak : Bool) : Mode :=
  if isWeak then weak else plain

/-- The character that a character behind a backslash stands for. -/
def escaped? (c : Char) : Option Char :=
  if c = 'n' then some '\n' else if ['\\', '\'', '"', '$', ' '].contains c then some c else none

/-- The value of the variable whose name was read. -/
def valueOf (lookup : Lookup) (name : List Char) : List Char :=
  ((lookup (String.ofList name.reverse)).getD "").toList

/-- Reads a value. -/
def readValue? (lookup : Lookup) : Mode → List Char → Option (List Char)
  | .plain, [] | .blank, [] | .escape false, [] => some []
  | .name false name, [] => some (valueOf lookup name)
  | .strong, [] | .weak, [] | .escape true, [] | .name true _, [] | .braced _ _, [] => none
  | .blank, c :: s =>
    if c = ' ' || c = '\t' then readValue? lookup .blank s
    else if c = '#' then some []
    else none
  | .escape isWeak, c :: s => do return (← escaped? c) :: (← readValue? lookup (.base isWeak) s)
  | .strong, c :: s =>
    if c = '\'' then readValue? lookup .plain s
    else (readValue? lookup .strong s).map (c :: ·)
  | .name isWeak name, c :: s =>
    if isAlphanumeric c then readValue? lookup (.name isWeak (c :: name)) s
    else if c = '\x7b' && name.isEmpty then readValue? lookup (.braced isWeak []) s
    else if c = '$' then
      (readValue? lookup (.name isWeak []) s).map (valueOf lookup name ++ ·)
    else
      (readValue? lookup (.base isWeak) s).map fun rest => valueOf lookup name ++ c :: rest
  | .braced isWeak name, c :: s =>
    if c = '\x7d' then
      (readValue? lookup (.base isWeak) s).map (valueOf lookup name ++ ·)
    else readValue? lookup (.braced isWeak (c :: name)) s
  | .weak, c :: s =>
    if c = '$' then readValue? lookup (.name true []) s
    else if c = '"' then readValue? lookup .plain s
    else if c = '\\' then readValue? lookup (.escape true) s
    else (readValue? lookup .weak s).map (c :: ·)
  | .plain, c :: s =>
    if c = '$' then readValue? lookup (.name false []) s
    else if c = '\'' then readValue? lookup .strong s
    else if c = '"' then readValue? lookup .weak s
    else if c = '\\' then readValue? lookup (.escape false) s
    else if c = ' ' || c = '\t' then readValue? lookup .blank s
    else (readValue? lookup .plain s).map (c :: ·)

/-- Whether a character may stand in a key. -/
def isKeyChar (c : Char) : Bool :=
  c.isAlphanum || c == '_' || c == '.'

/-- Reads a key and the blanks behind it. -/
def readKey? (s : List Char) : Option (List Char × List Char) :=
  match s with
  | [] => none
  | c :: _ =>
    if c.isAlpha || c == '_' then
      some (s.takeWhile isKeyChar, (s.dropWhile isKeyChar).dropWhile isBlank)
    else none

/-- Reads a key and the equals sign behind it. The word `export` may stand in front. -/
def readTarget? (s : List Char) : Option (List Char × List Char) := do
  let (key, s) ← readKey? s
  match s with
  | '=' :: s => return (key, s)
  | s =>
    if key = "export".toList then
      match ← readKey? s with
      | (key, '=' :: s) => return (key, s)
      | _ => none
    else none

/-- An assignment of a value to a key. -/
structure Assignment where
  key : String
  value : String
  deriving DecidableEq, Repr

/-- Reads a line, which may hold no assignment. -/
def readLine? (lookup : Lookup) (line : List Char) : Option (Option Assignment) :=
  let s := trim line
  if s.isEmpty || s.head? = some '#' then some none
  else do
    let (key, s) ← readTarget? s
    let s := s.dropWhile isBlank
    if s.isEmpty || s.head? = some '#' then return some ⟨String.ofList key, ""⟩
    else
      let value ← readValue? lookup .plain s
      return some ⟨String.ofList key, String.ofList value⟩

/-- Whether a variable can have a value: no value goes on behind a zero character. -/
def isSettable (value : String) : Bool :=
  !value.toList.contains '\x00'

/-- Makes an assignment, if the variable has no text. Nothing comes of it if the process ends. -/
def assign? (e : Environment) (a : Assignment) : Option Environment :=
  if (e.text a.key).isSome then some e
  else if isSettable a.value then some (e.set a.key a.value)
  else none

/-- Loads lines into an environment, up to the first line that cannot be read. -/
def load? (e : Environment) : List (Option (List Char)) → Option Environment
  | [] | none :: _ => some e
  | some line :: rest =>
    match readLine? e.text line with
    | none => some e
    | some none => load? e rest
    | some (some a) => (assign? e a).bind (load? · rest)

end File

/-- Loads a file of assignments, if there is one, into the environment of a process, and reads all
settings from it: what comes of that, and the environment that is left. -/
def readWithFile (e : Environment) (file : Option (List UInt8)) :
    Option (Except SettingsError Settings × Environment) :=
  (File.load? e (File.lines (file.getD []))).map fun e => (read e.text, e)

end LinkPreview.Settings
