import LinkPreview.Html.Tree

/-!
# The state in which a document is built

The builder keeps the tree, the elements that are open, the formatting elements
that misnested tags have to open again, and the place of the next tag, its
`Mode`. This module holds the steps that all modes are made of: inserting
elements and text, looking an element up in a scope, and closing elements.

## Implementation notes

The stack of open elements and the list of formatting elements have their newest
entry first. The root element is never closed while tags are read.
-/

namespace LinkPreview.Html

/-- Which rules the next token follows. -/
inductive Mode where
  | initial
  | beforeHtml
  | beforeHead
  | inHead
  | afterHead
  | inBody
  | inText
  | inTable
  | inTableText
  | inCaption
  | inColumnGroup
  | inTableBody
  | inRow
  | inCell
  | inSelect
  | inSelectInTable
  | inTemplate
  | afterBody
  | inFrameset
  | afterFrameset
  | afterAfterBody
  | afterAfterFrameset
  deriving DecidableEq, Repr

/-- An entry of the formatting elements: a marker, which hides the entries below
it, or an element with the tag that it was made from. -/
inductive Formatting where
  | marker
  | element (id : NodeId) (tag : Tag)
  deriving DecidableEq, Repr

/-- The state of the builder. -/
structure Builder where
  tree : Tree := .empty
  /-- The open elements, the current one first. -/
  openElements : List NodeId := []
  /-- The formatting elements, the newest first. -/
  formatting : List Formatting := []
  mode : Mode := .initial
  /-- The mode to go back to after text. -/
  returnMode : Mode := .initial
  /-- The modes of the open templates, the innermost first. -/
  templateModes : List Mode := []
  head : Option NodeId := none
  form : Option NodeId := none
  /-- Whether a frameset may still take the place of the body. -/
  framesetOk : Bool := true
  /-- Whether content that tables do not allow goes in front of the table. -/
  fostering : Bool := false
  /-- Whether a line feed that comes next is dropped. -/
  skipNewline : Bool := false
  /-- Text inside a table that has no place yet. -/
  tableText : List Char := []
  /-- How the text up to the next tag is read. -/
  textMode : TextMode := .markup

/-- A step of the builder. -/
abbrev Build := StateM Builder

/-- What is left to do about a token. -/
inductive Outcome where
  | done
  /-- The token is looked at once more, by the rules of the new mode. -/
  | again
  deriving DecidableEq, Repr

namespace Build

/-! ### Looking at the state -/

/-- The current element. -/
def current : Build NodeId := do
  return (← get).openElements.headD Tree.root

/-- Whether the current element is an element of HTML with one of these names. -/
def currentIn (names : List String) : Build Bool := do
  let b ← get
  let id ← current
  return names.any (b.tree.isHtml id)

/-- Whether an element of HTML with this name is open. -/
def isOpen (name : String) : Build Bool := do
  let b ← get
  return b.openElements.any (b.tree.isHtml · name)

/-- Whether an element of a formula holds text and HTML. -/
def isFormulaText (e : Element) : Bool :=
  e.vocabulary == .mathml && ["mi", "mo", "mn", "ms", "mtext"].contains e.name

/-- Whether an element of a drawing holds HTML. -/
def isDrawingText (e : Element) : Bool :=
  e.vocabulary == .svg && ["foreignObject", "desc", "title"].contains e.name

/-- Elements that a search among the open elements does not go past. -/
inductive Scope where
  | default
  | listItem
  | button
  | table
  | select

/-- The elements of HTML that end every scope but those of tables and selections. -/
def commonBounds : List String :=
  ["applet", "caption", "html", "table", "td", "th", "marquee", "object", "template"]

/-- Whether a scope ends at an element. -/
def Scope.endsAt (scope : Scope) (e : Element) : Bool :=
  let html (names : List String) := e.vocabulary == .html && names.contains e.name
  let common := html commonBounds || isFormulaText e || isDrawingText e
  match scope with
  | .default => common
  | .listItem => common || html ["ol", "ul"]
  | .button => common || html ["button"]
  | .table => html ["html", "table", "template"]
  | .select => !html ["optgroup", "option"]

/-- Whether a scope holds an open element that satisfies `p`. -/
def scopeHolds (scope : Scope) (p : NodeId → Bool) : Build Bool := do
  let b ← get
  let rec search : List NodeId → Bool
    | [] => false
    | id :: rest =>
      if p id then true
      else if ((b.tree.element? id).map scope.endsAt).getD false then false
      else search rest
  return search b.openElements

/-- Whether a scope holds an element of HTML with one of these names. -/
def inScope (scope : Scope) (names : List String) : Build Bool := do
  let b ← get
  scopeHolds scope fun id => names.any (b.tree.isHtml id)

/-! ### Changing the tree -/

/-- Changes the tree. -/
def onTree (f : Tree → Tree) : Build Unit :=
  modify fun b => { b with tree := f b.tree }

/-- Makes an element that is in no place yet. -/
def create (e : Element) : Build NodeId := do
  let b ← get
  let (id, tree) := b.tree.add (.element e)
  set { b with tree }
  return id

/-- Where new content goes. -/
inductive Spot where
  | lastOf (parent : NodeId)
  | before (sibling : NodeId)

/-- The elements whose unfit content is fostered. -/
def fosteringElements : List String :=
  ["table", "tbody", "tfoot", "thead", "tr"]

/-- Where fostered content goes: in front of the innermost open table if that is
in some place, else into the element below it, and always inside a template that
is nearer than a table. -/
def fosterSpot (tree : Tree) (root : NodeId) : List NodeId → Spot
  | [] => .lastOf root
  | id :: rest =>
    if tree.isHtml id "template" then .lastOf id
    else if tree.isHtml id "table" then
      if (tree.parent? id).isSome then .before id else .lastOf (rest.headD root)
    else fosterSpot tree root rest

/-- Where new content goes that is meant for `target`. -/
def spotFor (target : NodeId) : Build Spot := do
  let b ← get
  if b.fostering && fosteringElements.any (b.tree.isHtml target) then
    return fosterSpot b.tree (b.openElements.getLast?.getD Tree.root) b.openElements
  else return .lastOf target

/-- Puts a node into a spot. -/
def place (spot : Spot) (id : NodeId) : Build Unit :=
  match spot with
  | .lastOf parent => onTree (·.append parent id)
  | .before sibling => onTree (·.insertBefore sibling id)

/-- Inserts a character at the current element. -/
def insertChar (c : Char) : Build Unit := do
  match ← spotFor (← current) with
  | .lastOf parent => onTree (·.appendChar parent c)
  | .before sibling => onTree (·.insertCharBefore sibling c)

/-- Opens an element that is in the tree already. -/
def push (id : NodeId) : Build Unit :=
  modify fun b => { b with openElements := id :: b.openElements }

/-- Inserts an element at the current one and does not open it. -/
def insertVoid (vocabulary : Vocabulary) (tag : Tag) : Build NodeId := do
  let id ← create ⟨vocabulary, tag.name, tag.attributes⟩
  place (← spotFor (← current)) id
  return id

/-- Inserts an element at the current one and opens it. -/
def insert (vocabulary : Vocabulary) (tag : Tag) : Build NodeId := do
  let id ← insertVoid vocabulary tag
  push id
  return id

/-- Opens an element of HTML for a tag. -/
def openTag (tag : Tag) : Build Unit := do
  let _ ← insert .html tag

/-- Inserts an element of HTML that has no content. -/
def voidTag (tag : Tag) : Build Unit := do
  let _ ← insertVoid .html tag

/-- Opens an element of HTML that no tag stands for. -/
def openImplied (name : String) : Build Unit :=
  openTag { name }

/-! ### Closing elements -/

/-- Closes the current element. -/
def pop : Build Unit :=
  modify fun b => { b with openElements := b.openElements.drop 1 }

/-- Closes elements up to and with the first that satisfies `p`. -/
def popThrough (p : Tree → NodeId → Bool) : Build Unit :=
  modify fun b =>
    { b with openElements := (b.openElements.dropWhile (fun id => !p b.tree id)).drop 1 }

/-- Closes elements up to and with the first element of HTML with one of these
names. -/
def popNamed (names : List String) : Build Unit :=
  popThrough fun tree id => names.any (tree.isHtml id)

/-- Closes elements until the current one is an element of HTML with one of these
names. -/
def popTo (names : List String) : Build Unit :=
  modify fun b =>
    { b with openElements := b.openElements.dropWhile fun id => !names.any (b.tree.isHtml id) }

/-- Takes an element out of the open ones, wherever it is. -/
def removeOpen (id : NodeId) : Build Unit :=
  modify fun b => { b with openElements := b.openElements.filter (· != id) }

/-- The elements whose end tags may be left out. -/
def impliedEnds : List String :=
  ["dd", "dt", "li", "option", "optgroup", "p", "rb", "rp", "rt", "rtc"]

/-- The elements whose end tags may be left out at the end of a template. -/
def thoroughlyImpliedEnds : List String :=
  impliedEnds ++ ["caption", "colgroup", "tbody", "td", "tfoot", "th", "thead", "tr"]

/-- Closes elements whose end tags were left out, except one. -/
def closeImplied (names : List String) (spared : String) : Build Unit :=
  modify fun b =>
    { b with openElements := b.openElements.dropWhile fun id =>
        names.any fun name => name != spared && b.tree.isHtml id name }

/-- Closes elements whose end tags were left out. -/
def closeAllImplied : Build Unit :=
  closeImplied impliedEnds ""

/-- Closes a paragraph. -/
def closeParagraph : Build Unit := do
  closeImplied impliedEnds "p"
  popNamed ["p"]

/-- Closes a paragraph that is open, up to a button. -/
def closeOpenParagraph : Build Unit := do
  if ← inScope .button ["p"] then closeParagraph

/-- Switches to a mode. -/
def goTo (mode : Mode) : Build Unit :=
  modify fun b => { b with mode }

/-- Switches to a mode, in which the token is looked at once more. -/
def againIn (mode : Mode) : Build Outcome := do
  goTo mode
  return .again

/-- A frameset may no longer take the place of the body. -/
def forbidFrameset : Build Unit :=
  modify fun b => { b with framesetOk := false }

/-- Opens an element whose content is text. -/
def openText (tag : Tag) (textMode : TextMode) : Build Unit := do
  openTag tag
  modify fun b => { b with returnMode := b.mode, mode := .inText, textMode }

/-- The mode that the open elements call for. `newer` are the elements above, the
nearest last. -/
def modeFor (b : Builder) : List NodeId → Mode
  | [] => .inBody
  | id :: below =>
    let isLast := below.isEmpty
    match b.tree.element? id with
    | some ⟨.html, name, _⟩ =>
      match name with
      | "select" =>
        let bound := below.find? fun id => b.tree.isHtml id "template" || b.tree.isHtml id "table"
        if (bound.map (b.tree.isHtml · "table")).getD false then .inSelectInTable else .inSelect
      | "td" | "th" => if isLast then modeFor b below else .inCell
      | "tr" => .inRow
      | "tbody" | "thead" | "tfoot" => .inTableBody
      | "caption" => .inCaption
      | "colgroup" => .inColumnGroup
      | "table" => .inTable
      | "template" => b.templateModes.headD .inBody
      | "head" => if isLast then modeFor b below else .inHead
      | "body" => .inBody
      | "frameset" => .inFrameset
      | "html" => if b.head.isNone then .beforeHead else .afterHead
      | _ => modeFor b below
    | _ => modeFor b below

/-- Switches to the mode that the open elements call for. -/
def resetMode : Build Unit :=
  modify fun b => { b with mode := modeFor b b.openElements }

/-- Switches to the mode that the open elements call for, in which the token is
looked at once more. -/
def againInReset : Build Outcome := do
  resetMode
  return .again

end Build

end LinkPreview.Html
