import LinkPreview.Html.Token

/-!
# The tree of a document

A document is kept as a table of nodes. A node is named by its number, which
tells when it was made: the document itself is number zero, and every node that is
made later has a larger number. Each node knows its parent and its children, so
that a part of the tree can be cut off and put somewhere else.

## Implementation notes

While a document is read, nodes are moved and cut off often, and the reader holds
on to nodes that are in no place. A table with numbers expresses this; an
inductive tree would not.
-/

namespace LinkPreview.Html

/-- The vocabulary that the name of an element belongs to. -/
inductive Vocabulary where
  | html
  | svg
  | mathml
  deriving DecidableEq, Repr

/-- What an element is: its name, in its vocabulary, and its attributes. -/
structure Element where
  vocabulary : Vocabulary
  name : String
  attributes : List Attribute
  deriving DecidableEq, Repr

/-- What a node is. -/
inductive NodeKind where
  | document
  | element (e : Element)
  | text (content : String)
  deriving DecidableEq, Repr

/-- The number of a node. -/
abbrev NodeId := Nat

/-- A node with its place in the tree. The newest children come first. -/
structure Node where
  kind : NodeKind
  parent : Option NodeId := none
  children : List NodeId := []
  deriving Repr

/-- The nodes of a document, in the order in which they were made. -/
structure Tree where
  nodes : Array Node
  deriving Repr

namespace Tree

/-- The number of the document. -/
def root : NodeId := 0

/-- A document without content. -/
def empty : Tree := ⟨#[⟨.document, none, []⟩]⟩

/-- The element that a node is, if it is one. -/
def element? (t : Tree) (id : NodeId) : Option Element :=
  match t.nodes[id]? with
  | some ⟨.element e, _, _⟩ => some e
  | _ => none

/-- Whether a node is an element of HTML with this name. -/
def isHtml (t : Tree) (id : NodeId) (name : String) : Bool :=
  match t.element? id with
  | some e => e.vocabulary == .html && e.name == name
  | none => false

/-- The parent of a node, if it is in some place. -/
def parent? (t : Tree) (id : NodeId) : Option NodeId :=
  t.nodes[id]?.bind (·.parent)

/-- The children of a node, last to first. -/
def children (t : Tree) (id : NodeId) : List NodeId :=
  (t.nodes[id]?.map (·.children)).getD []

/-- Changes one node. -/
def update (t : Tree) (id : NodeId) (f : Node → Node) : Tree :=
  ⟨t.nodes.modify id f⟩

/-- Makes a node that is in no place yet. -/
def add (t : Tree) (kind : NodeKind) : NodeId × Tree :=
  (t.nodes.size, ⟨t.nodes.push { kind }⟩)

/-- Cuts a node off from its parent. -/
def detach (t : Tree) (id : NodeId) : Tree :=
  match t.parent? id with
  | none => t
  | some parent =>
    (t.update parent fun n => { n with children := n.children.filter (· != id) }).update id
      fun n => { n with parent := none }

/-- Makes a node the last child of another. -/
def append (t : Tree) (parent child : NodeId) : Tree :=
  ((t.detach child).update parent fun n => { n with children := child :: n.children }).update
    child fun n => { n with parent := some parent }

/-- A list with `x` behind each `y`. -/
def insertBehind (x y : NodeId) (ids : List NodeId) : List NodeId :=
  ids.flatMap fun id => if id == y then [y, x] else [id]

/-- Puts a node in front of another that is in some place. -/
def insertBefore (t : Tree) (sibling child : NodeId) : Tree :=
  let t := t.detach child
  match t.parent? sibling with
  | none => t
  | some parent =>
    (t.update parent fun n =>
      { n with children := insertBehind child sibling n.children }).update child
      fun n => { n with parent := some parent }

/-- Whether a node is text. -/
def isText (t : Tree) (id : NodeId) : Bool :=
  match t.nodes[id]? with
  | some ⟨.text _, _, _⟩ => true
  | _ => false

/-- Writes a character at the end of a text. -/
def extendText (t : Tree) (id : NodeId) (c : Char) : Tree :=
  t.update id fun n =>
    match n.kind with
    | .text content => { n with kind := .text (content.push c) }
    | _ => n

/-- Writes a character at the end of a node. It joins a text that is there. -/
def appendChar (t : Tree) (parent : NodeId) (c : Char) : Tree :=
  match (t.children parent).head? with
  | some last =>
    if t.isText last then t.extendText last c
    else
      let (id, t) := t.add (.text (String.singleton c))
      t.append parent id
  | none =>
    let (id, t) := t.add (.text (String.singleton c))
    t.append parent id

/-- The node in front of another, below the same parent. -/
def previous? (t : Tree) (id : NodeId) : Option NodeId :=
  (t.parent? id).bind fun parent => ((t.children parent).dropWhile (· != id)).drop 1 |>.head?

/-- Writes a character in front of a node. It joins a text that is there. -/
def insertCharBefore (t : Tree) (sibling : NodeId) (c : Char) : Tree :=
  match t.previous? sibling with
  | some before =>
    if t.isText before then t.extendText before c
    else
      let (id, t) := t.add (.text (String.singleton c))
      t.insertBefore sibling id
  | none =>
    let (id, t) := t.add (.text (String.singleton c))
    t.insertBefore sibling id

/-- Moves all children of one node to the end of another. -/
def moveChildren (t : Tree) (source target : NodeId) : Tree :=
  (t.children source).foldr (fun child t => t.append target child) t

/-- Gives an element those attributes that it does not have yet. -/
def addMissing (t : Tree) (id : NodeId) (attributes : List Attribute) : Tree :=
  t.update id fun n =>
    match n.kind with
    | .element e =>
      let missing := attributes.filter fun a => !e.attributes.any (·.name == a.name)
      { n with kind := .element { e with attributes := e.attributes ++ missing } }
    | _ => n

/-- The text below a node, in the order of the document, down to a given depth. -/
def textTo (t : Tree) : Nat → NodeId → List Char
  | 0, _ => []
  | depth + 1, id =>
    match t.nodes[id]? with
    | some ⟨.text content, _, _⟩ => content.toList
    | some ⟨_, _, children⟩ => children.reverse.flatMap (t.textTo depth)
    | none => []

/-- The text below a node. No branch is longer than there are nodes. -/
def text (t : Tree) (id : NodeId) : List Char :=
  t.textTo t.nodes.size id

end Tree

end LinkPreview.Html
