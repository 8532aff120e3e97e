import LinkPreview.Html.Builder

/-!
# Formatting elements

An element such as `b` goes on formatting behind a block that was closed too
early. The builder therefore keeps a list of formatting elements: `reconstruct`
opens again those that were closed with a block, and `adopt` sorts out an end tag
that comes inside a block which the formatting element does not hold.
-/

namespace LinkPreview.Html

namespace Build

/-- The formatting elements above the newest marker, the newest first. -/
def unmarked : List Formatting → List (NodeId × Tag)
  | .element id tag :: rest => (id, tag) :: unmarked rest
  | _ => []

/-- Whether an entry stands for the given element. -/
def Formatting.isFor (id : NodeId) : Formatting → Bool
  | .element id' _ => id == id'
  | .marker => false

/-- Changes the list of formatting elements. -/
def onFormatting (f : List Formatting → List Formatting) : Build Unit :=
  modify fun b => { b with formatting := f b.formatting }

/-- Takes an element out of the formatting elements. -/
def dropFormatting (id : NodeId) : Build Unit :=
  onFormatting (·.filter (!Formatting.isFor id ·))

/-- Hides the formatting elements there are. -/
def mark : Build Unit :=
  onFormatting (.marker :: ·)

/-- Forgets the formatting elements up to and with the newest marker. -/
def unmark : Build Unit :=
  onFormatting fun entries => (entries.dropWhile (· != .marker)).drop 1

/-- Whether two tags have the same name and the same attributes, in any order. -/
def sameTag (s t : Tag) : Bool :=
  s.name == t.name && s.attributes.length == t.attributes.length &&
    s.attributes.all t.attributes.contains

/-- Opens a formatting element. Of four equal ones above a marker the oldest is
forgotten. -/
def openFormatting (tag : Tag) : Build Unit := do
  let equal := (unmarked (← get).formatting).filter fun (_, t) => sameTag tag t
  if equal.length ≥ 3 then
    match equal.getLast? with
    | some (oldest, _) => dropFormatting oldest
    | none => pure ()
  let id ← insert .html tag
  onFormatting (.element id tag :: ·)

/-- Opens the given formatting elements, the last of the list first, and gives
the entries that take their place. -/
def reopen : List (NodeId × Tag) → Build (List Formatting)
  | [] => return []
  | (_, tag) :: older => do
    let entries ← reopen older
    let id ← insert .html tag
    return .element id tag :: entries

/-- Opens the formatting elements again that were closed since the newest one
that is still open. -/
def reconstruct : Build Unit := do
  let b ← get
  let closed := (unmarked b.formatting).takeWhile fun (id, _) => !b.openElements.contains id
  let entries ← reopen closed
  onFormatting fun all => entries ++ all.drop closed.length

/-- The elements of HTML that no end tag of another element closes, formatting
elements aside. -/
def specialElements : List String :=
  ["address", "applet", "area", "article", "aside", "base", "basefont", "bgsound",
    "blockquote", "body", "br", "button", "caption", "center", "col", "colgroup", "dd",
    "details", "dir", "div", "dl", "dt", "embed", "fieldset", "figcaption", "figure",
    "footer", "form", "frame", "frameset", "h1", "h2", "h3", "h4", "h5", "h6", "head",
    "header", "hgroup", "hr", "html", "iframe", "img", "input", "isindex", "li", "link",
    "listing", "main", "marquee", "menu", "meta", "nav", "noembed", "noframes", "noscript",
    "object", "ol", "p", "param", "plaintext", "pre", "script", "section", "select",
    "source", "style", "summary", "table", "tbody", "td", "template", "textarea", "tfoot",
    "th", "thead", "title", "tr", "track", "ul", "wbr", "xmp"]

/-- Whether a node is a special element. -/
def isSpecial (tree : Tree) (id : NodeId) : Bool :=
  match tree.element? id with
  | some e => e.vocabulary == .html && specialElements.contains e.name
  | none => false

/-- Closes the newest open element with this name and those above it, unless a
special element comes first. -/
def closeOrdinary (name : String) : Build Unit := do
  let b ← get
  let above := b.openElements.takeWhile fun id => !b.tree.isHtml id name
  if above.length < b.openElements.length && !above.any (isSpecial b.tree) then
    closeImplied impliedEnds name
    popNamed [name]

/-- Where the entry of an adopted element goes: in the place of the element that
it stands for, or in front of another entry. -/
inductive Bookmark where
  | inPlace
  | newerThan (id : NodeId)

/-- The first clone that is made decides where the entry goes. -/
def Bookmark.orNewerThan (clone : NodeId) : Bookmark → Bookmark
  | inPlace => newerThan clone
  | newerThan id => newerThan id

/-- Clones the formatting elements between a block and the element that is to be
closed, nearest to the block first, and hangs each into the next clone. Only the
first three are cloned; later ones, and those that are not formatting elements any
more, are closed. Gives the outermost node of the chain and the bookmark. -/
def cloneBetween : List NodeId → Nat → NodeId → Bookmark → Build (NodeId × Bookmark)
  | [], _, last, bookmark => return (last, bookmark)
  | id :: rest, seen, last, bookmark => do
    let entry := (← get).formatting.findSome? fun
      | .element id' tag => if id == id' then some tag else none
      | .marker => none
    match entry with
    | some tag =>
      if seen < 3 then
        let clone ← create ⟨.html, tag.name, tag.attributes⟩
        modify fun b =>
          { b with openElements := b.openElements.map fun id' => if id == id' then clone else id' }
        onFormatting (·.map fun e => if Formatting.isFor id e then .element clone tag else e)
        onTree (·.append clone last)
        cloneBetween rest (seen + 1) clone (bookmark.orNewerThan clone)
      else
        dropFormatting id
        removeOpen id
        cloneBetween rest (seen + 1) last bookmark
    | none =>
      removeOpen id
      cloneBetween rest (seen + 1) last bookmark

/-- Closes a formatting element below a block: the block moves out of it, and a
copy of the element takes over the content of the block. -/
def adoptBlock (id : NodeId) (tag : Tag) (block : NodeId) (between : List NodeId)
    (ancestor : NodeId) : Build Unit := do
  let (last, bookmark) ← cloneBetween between 0 block .inPlace
  onTree (·.detach last)
  place (← spotFor ancestor) last
  let copy ← create ⟨.html, tag.name, tag.attributes⟩
  onTree (·.moveChildren block copy)
  onTree (·.append block copy)
  let entry := Formatting.element copy tag
  match bookmark with
  | .inPlace => onFormatting (·.map fun e => if Formatting.isFor id e then entry else e)
  | .newerThan other =>
    onFormatting (·.flatMap fun e => if Formatting.isFor other e then [entry, e] else [e])
    dropFormatting id
  removeOpen id
  modify fun b =>
    { b with openElements :=
        b.openElements.flatMap fun id => if id == block then [copy, id] else [id] }

/-- One round of closing a formatting element. Tells whether there is more to do. -/
def adoptOnce (name : String) : Build Bool := do
  let b ← get
  match (unmarked b.formatting).find? fun (_, tag) => tag.name == name with
  | none => closeOrdinary name; return false
  | some (id, tag) =>
    if !b.openElements.contains id then
      dropFormatting id
      return false
    else if !(← scopeHolds .default (· == id)) then return false
    else
      let above := b.openElements.takeWhile (· != id)
      let below := (b.openElements.dropWhile (· != id)).drop 1
      match above.reverse.find? (isSpecial b.tree) with
      | none =>
        set { b with openElements := below }
        dropFormatting id
        return false
      | some block =>
        adoptBlock id tag block ((above.dropWhile (· != block)).drop 1)
          (below.headD Tree.root)
        return true

/-- Up to `n` rounds of closing a formatting element. -/
def adoptRounds (name : String) : Nat → Build Unit
  | 0 => pure ()
  | n + 1 => do if ← adoptOnce name then adoptRounds name n

/-- Closes a formatting element by its end tag, wherever that comes. -/
def adopt (name : String) : Build Unit := do
  let b ← get
  let id ← current
  if b.tree.isHtml id name && !b.formatting.any (Formatting.isFor id) then pop
  else adoptRounds name 8

/-- A second anchor closes the first. -/
def closeAnchor : Build Unit := do
  let b ← get
  match (unmarked b.formatting).find? fun (id, _) => b.tree.isHtml id "a" with
  | none => pure ()
  | some (id, _) =>
    adopt "a"
    dropFormatting id
    removeOpen id

end Build

end LinkPreview.Html
