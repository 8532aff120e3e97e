import LinkPreview.Html.Builder.Modes
import LinkPreview.Html.Lexer

/-!
# Documents

`Tree.read` reads a text of markup into a tree. No text is refused: markup that is
out of place is put where the rules of the builder say. `Tree.elements` lists the
elements of a tree that are in some place.
-/

namespace LinkPreview.Html

namespace Tree

/-- Line ends are line feeds, and a byte order mark in front is dropped. -/
def normalize : List Char → List Char
  | '\ufeff' :: s => lineFeeds s
  | s => lineFeeds s
where
  lineFeeds : List Char → List Char
    | [] => []
    | '\r' :: '\n' :: s => '\n' :: lineFeeds s
    | '\r' :: s => '\n' :: lineFeeds s
    | c :: s => c :: lineFeeds s

/-- Whether sections of character data are allowed at the current element. -/
def allowsSections (b : Builder) : Bool :=
  match b.openElements.head?.bind b.tree.element? with
  | some e => e.vocabulary != .html
  | none => false

/-- Reads a text to its end. -/
def readAll (b : Builder) (s : List Char) : Builder :=
  if h : s = [] then (Build.take .eof b).2
  else
    let piece := Token.next b.textMode (allowsSections b) s
    have : piece.2.length < s.length := Token.length_next_lt _ _ h
    readAll (piece.1.foldl (fun b token => (Build.take token b).2) b) piece.2
termination_by s.length

/-- Reads a text of markup. -/
def read (markup : String) : Tree :=
  (readAll {} (normalize markup.toList)).tree

/-- The elements that have a parent, in the order in which they were made, each
with its number. -/
def elements (t : Tree) : List (NodeId × Element) :=
  (List.range t.nodes.size).filterMap fun id =>
    match t.nodes[id]? with
    | some node =>
      match node.kind, node.parent with
      | .element e, some _ => some (id, e)
      | _, _ => none
    | none => none

end Tree

end LinkPreview.Html
