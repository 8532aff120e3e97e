import LinkPreview.Html.Reference
import LinkPreview.Text.Blank

/-!
# Tokens of markup

A text of markup is a sequence of tokens: doctypes, start tags, end tags,
comments and single characters. How far the next token reaches depends on the
element that is open, because some elements hold text without tags; the reader
is told so by a `TextMode`.

## Implementation notes

A value is cut out of the text at its delimiters first, and its references are decoded
afterwards, since no reference holds a delimiter.
-/

namespace LinkPreview.Html

open Text (isAsciiBlank)

/-- An attribute of a tag. -/
structure Attribute where
  name : String
  value : String
  deriving DecidableEq, Repr

/-- A start tag. -/
structure Tag where
  name : String
  attributes : List Attribute := []
  selfClosing : Bool := false
  deriving DecidableEq, Repr

/-- One token. The end of the text is a token of its own. -/
inductive Token where
  | doctype
  | startTag (tag : Tag)
  | endTag (name : String)
  | comment
  | char (c : Char)
  | eof
  deriving DecidableEq, Repr

/-- What the text up to the next tag is made of. -/
inductive TextMode where
  /-- Tags, comments, references and characters. -/
  | markup
  /-- Characters and references up to the end tag of the named element. -/
  | replaceable (element : String)
  /-- Characters up to the end tag of the named element. -/
  | raw (element : String)
  /-- Characters up to the end tag of a script. -/
  | script
  /-- Characters up to the end. -/
  | plain
  deriving DecidableEq, Repr

/-- The value of an attribute, if the tag has it. -/
def attribute? (attributes : List Attribute) (name : String) : Option String :=
  (attributes.find? (·.name == name)).map (·.value)

namespace Token

/-- NUL is not allowed in names and values; it becomes the replacement character. -/
def replaceNul (s : List Char) : List Char :=
  s.map fun c => if c = '\x00' then '\ufffd' else c

/-- A name of a tag, an attribute or a document type. -/
def nameOf (s : List Char) : String :=
  String.ofList (Text.asciiLower (replaceNul s))

/-- The value of an attribute, written as `s`. -/
def valueOf (s : List Char) : String :=
  String.ofList (Reference.decode .attributeValue (replaceNul s))

/-- A tag keeps the first of several attributes of one name. -/
def addAttribute (attributes : List Attribute) (name : List Char) (value : String) :
    List Attribute :=
  if attributes.any (·.name == nameOf name) then attributes
  else attributes ++ [⟨nameOf name, value⟩]

/-- Whether a character goes on with the name of an attribute. -/
def inAttributeName (c : Char) : Bool :=
  !(isAsciiBlank c || c == '/' || c == '>' || c == '=')

/-- Whether a character goes on with the name of a tag. -/
def inTagName (c : Char) : Bool :=
  !(isAsciiBlank c || c == '/' || c == '>')

/-- Whether a character goes on with a value that has no quotes. -/
def inBareValue (c : Char) : Bool :=
  !(isAsciiBlank c || c == '>')

theorem length_dropWhile_le (p : Char → Bool) (s : List Char) :
    (s.dropWhile p).length ≤ s.length :=
  (List.dropWhile_suffix p).length_le

/-- Reads the value of an attribute, in quotes or bare: the value as it is
written, and the text after it. -/
def readValue (s : List Char) : List Char × List Char :=
  match s with
  | '"' :: rest => (rest.takeWhile (· != '"'), (rest.dropWhile (· != '"')).drop 1)
  | '\'' :: rest => (rest.takeWhile (· != '\''), (rest.dropWhile (· != '\'')).drop 1)
  | _ => (s.takeWhile inBareValue, s.dropWhile inBareValue)

theorem length_readValue_le (s : List Char) : (readValue s).2.length ≤ s.length := by
  unfold readValue
  split
  · rename_i rest
    have h := length_dropWhile_le (· != '"') rest
    simp only [List.length_drop, List.length_cons]
    omega
  · rename_i rest
    have h := length_dropWhile_le (· != '\'') rest
    simp only [List.length_drop, List.length_cons]
    omega
  · exact length_dropWhile_le _ _

/-- Reads what may follow the name of an attribute: an equals sign and a value.
Gives the value and the text after it. -/
def readAssignment (s : List Char) : String × List Char :=
  match s.dropWhile isAsciiBlank with
  | '=' :: rest =>
    let (value, rest) := readValue (rest.dropWhile isAsciiBlank)
    (valueOf value, rest)
  | _ => ("", s)

theorem length_readAssignment_le (s : List Char) :
    (readAssignment s).2.length ≤ s.length := by
  have h₁ := length_dropWhile_le isAsciiBlank s
  unfold readAssignment
  split
  · rename_i rest h
    rw [h, List.length_cons] at h₁
    have h₂ := length_readValue_le (rest.dropWhile isAsciiBlank)
    have h₃ := length_dropWhile_le isAsciiBlank rest
    simp only
    omega
  · exact Nat.le_refl _

/-- Reads the attributes of a tag up to its end: the attributes, whether the tag
closes itself, and the text after the tag. A tag that does not end is nothing. -/
def readAttributes (attributes : List Attribute) (s : List Char) :
    Option (List Attribute × Bool × List Char) :=
  match s with
  | [] => none
  | '>' :: rest => some (attributes, false, rest)
  | '/' :: '>' :: rest => some (attributes, true, rest)
  | c :: rest =>
    if isAsciiBlank c || c == '/' then readAttributes attributes rest
    else
      let name := c :: rest.takeWhile inAttributeName
      let assignment := readAssignment (rest.dropWhile inAttributeName)
      readAttributes (addAttribute attributes name assignment.1) assignment.2
termination_by s.length
decreasing_by
  all_goals have h₁ := length_dropWhile_le inAttributeName rest
  all_goals have h₂ := length_readAssignment_le (rest.dropWhile inAttributeName)
  all_goals simp only [List.length_cons]
  all_goals omega

theorem length_readAttributes_lt (attributes : List Attribute) (s : List Char)
    {r : List Attribute × Bool × List Char} (h : readAttributes attributes s = some r) :
    r.2.2.length < s.length := by
  fun_induction readAttributes attributes s with
  | case1 => simp at h
  | case2 attributes rest => simp at h; subst h; simp
  | case3 attributes rest =>
    simp at h
    subst h
    simp only [List.length_cons]
    omega
  | case4 attributes c rest _ _ _ ih => have := ih h; simp only [List.length_cons]; omega
  | case5 attributes c rest _ _ _ name assignment ih =>
    have h₁ := length_dropWhile_le inAttributeName rest
    have h₂ : assignment.2.length ≤ _ :=
      length_readAssignment_le (rest.dropWhile inAttributeName)
    have := ih h
    simp only [List.length_cons]
    omega

end Token

end LinkPreview.Html
