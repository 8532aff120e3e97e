import LinkPreview.Html.Document
import LinkPreview.Metadata
import LinkPreview.Url.Reading

/-!
# What a preview takes from a page

Title, description, image and icon of a page are found independently of each other.
For the first three, each source is looked at in turn: of a source only the first
element counts, and a blank one gives way to the next source. The icon is that of the
first link which names an icon, and every page has one: where the link or its address
is missing, it is the one that servers keep at the root.
-/

namespace LinkPreview

namespace Page

open Html

/-- An element of a page, with the text in it. -/
structure Item where
  element : Element
  text : String
  deriving DecidableEq, Repr

/-- The elements of a tree, in the order in which they were made. -/
def items (t : Tree) : List Item :=
  t.elements.map fun (id, element) => ⟨element, String.ofList (t.text id)⟩

/-- A text without blanks around it, if anything is left. -/
def nonBlank? (s : String) : Option String :=
  let trimmed := Text.trim s.toList
  if trimmed.isEmpty then none else some (String.ofList trimmed)

/-- The value of an attribute of an item. -/
def Item.attribute? (item : Item) (name : String) : Option String :=
  Html.attribute? item.element.attributes name

/-- The content of the first `meta` element whose attribute has the given value. -/
def metaContent? (items : List Item) (key value : String) : Option String := do
  let item ← items.find? fun item =>
    item.element.name == "meta" && item.attribute? key == some value
  nonBlank? (← item.attribute? "content")

/-- The text of the first title. -/
def titleText? (items : List Item) : Option String := do
  let item ← items.find? (·.element.name == "title")
  nonBlank? item.text

/-- Whether an item is a link that names an icon. -/
def isIconLink (item : Item) : Bool :=
  item.element.name == "link" &&
    match item.attribute? "rel" with
    | none => false
    | some rel => (Text.asciiWords rel.toList).any (Text.eqIgnoringAsciiCase · "icon".toList)

/-- The address that the first link to an icon gives. -/
def iconAddress? (items : List Item) : Option String := do
  let item ← items.find? isIconLink
  nonBlank? (← item.attribute? "href")

/-- Where an icon is found whose address stands in the page at `source`. -/
def resolveIcon (source : Url) (address : Option String) : String :=
  match address with
  | none => source.beforePath ++ "/favicon.ico"
  | some a =>
    if a.startsWith "http" then a
    else if a.startsWith "//" then source.scheme ++ ":" ++ a
    else if a.startsWith "/" then source.beforePath ++ a
    else source.beforePath ++ "/" ++ a

/-- What a preview takes from the elements of a page. -/
def metadataOf (items : List Item) (source : String) : Metadata where
  title :=
    (metaContent? items "property" "og:title")
      <|> (metaContent? items "name" "twitter:title")
      <|> titleText? items
  description :=
    (metaContent? items "property" "og:description")
      <|> (metaContent? items "name" "twitter:description")
      <|> (metaContent? items "name" "description")
  image :=
    (metaContent? items "property" "og:image")
      <|> (metaContent? items "name" "twitter:image")
  favicon := (Url.read? source).map fun u => resolveIcon u (iconAddress? items)

/-- What a preview takes from a page. -/
def metadata (markup source : String) : Metadata :=
  metadataOf (items (Tree.read markup)) source

end Page

end LinkPreview
