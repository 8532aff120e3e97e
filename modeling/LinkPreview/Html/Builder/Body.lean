import LinkPreview.Html.Builder.Head

/-!
# The rules of the body

Most modes send what they do not treat themselves through `inBodyStep`.
-/

namespace LinkPreview.Html

namespace Build

open Text (isAsciiBlank)

/-- The value of an attribute of a tag says that it shows nothing. -/
def isHidden (tag : Tag) : Bool :=
  match attribute? tag.attributes "type" with
  | some value => Text.eqIgnoringAsciiCase value.toList "hidden".toList
  | none => false

/-- The blocks that close a paragraph and are opened. -/
def blocks : List String :=
  ["address", "article", "aside", "blockquote", "center", "details", "dialog", "dir", "div",
    "dl", "fieldset", "figcaption", "figure", "footer", "header", "hgroup", "main", "menu",
    "nav", "ol", "p", "search", "section", "summary", "ul"]

/-- The headings. -/
def headings : List String := ["h1", "h2", "h3", "h4", "h5", "h6"]

/-- The formatting elements that may be nested in themselves. -/
def formattingElements : List String :=
  ["b", "big", "code", "em", "font", "i", "s", "small", "strike", "strong", "tt", "u"]

/-- Elements that have no content and count as content. -/
def voidElements : List String :=
  ["area", "br", "embed", "img", "keygen", "wbr", "input"]

/-- Elements that only make sense in tables and framesets. -/
def misplacedElements : List String :=
  ["caption", "col", "colgroup", "frame", "head", "tbody", "td", "tfoot", "th", "thead", "tr"]

/-- A list item closes the one before it. -/
def closeItem (names : List String) : Build Unit := do
  let b ← get
  let stopsAt (id : NodeId) : Bool :=
    isSpecial b.tree id && (["address", "div", "p"].all fun name => !b.tree.isHtml id name)
  let rec search : List NodeId → Option String
    | [] => none
    | id :: rest =>
      match names.find? (b.tree.isHtml id) with
      | some name => some name
      | none => if stopsAt id then none else search rest
  match search b.openElements with
  | none => pure ()
  | some name =>
    closeImplied impliedEnds name
    popNamed [name]

/-- Opens the root of a drawing or a formula. -/
def openForeign (vocabulary : Vocabulary) (tag : Tag) : Build Unit := do
  if tag.selfClosing then
    let _ ← insertVoid vocabulary tag
  else
    let _ ← insert vocabulary tag

/-- A start tag in the body. -/
def bodyStart (tag : Tag) : Build Outcome := do
  match tag.name with
  | "html" => return ← mergeRoot tag
  | "body" =>
    let b ← get
    match b.openElements.reverse with
    | _ :: body :: _ =>
      if b.tree.isHtml body "body" && !(← isOpen "template") then
        forbidFrameset
        onTree (·.addMissing body tag.attributes)
    | _ => pure ()
  | "frameset" =>
    let b ← get
    match b.openElements.reverse with
    | root :: body :: _ =>
      if b.framesetOk && b.tree.isHtml body "body" then
        onTree (·.detach body)
        modify fun b => { b with openElements := [root] }
        openTag tag
        goTo .inFrameset
    | _ => pure ()
  | "h1" | "h2" | "h3" | "h4" | "h5" | "h6" =>
    closeOpenParagraph
    if ← currentIn headings then pop
    openTag tag
  | "pre" | "listing" =>
    closeOpenParagraph
    openTag tag
    modify fun b => { b with skipNewline := true, framesetOk := false }
  | "form" =>
    let inTemplate ← isOpen "template"
    if (← get).form.isNone || inTemplate then
      closeOpenParagraph
      let id ← insert .html tag
      if !inTemplate then modify fun b => { b with form := some id }
  | "li" =>
    forbidFrameset
    closeItem ["li"]
    closeOpenParagraph
    openTag tag
  | "dd" | "dt" =>
    forbidFrameset
    closeItem ["dd", "dt"]
    closeOpenParagraph
    openTag tag
  | "plaintext" =>
    closeOpenParagraph
    openTag tag
    modify fun b => { b with textMode := .plain }
  | "button" =>
    if ← inScope .default ["button"] then
      closeAllImplied
      popNamed ["button"]
    reconstruct
    openTag tag
    forbidFrameset
  | "a" =>
    closeAnchor
    reconstruct
    openFormatting tag
  | "nobr" =>
    reconstruct
    if ← inScope .default ["nobr"] then
      adopt "nobr"
      reconstruct
    openFormatting tag
  | "applet" | "marquee" | "object" =>
    reconstruct
    openTag tag
    mark
    forbidFrameset
  | "table" =>
    closeOpenParagraph
    openTag tag
    forbidFrameset
    goTo .inTable
  | "param" | "source" | "track" => voidTag tag
  | "hr" =>
    closeOpenParagraph
    voidTag tag
    forbidFrameset
  | "image" =>
    reconstruct
    voidTag { tag with name := "img" }
    forbidFrameset
  | "textarea" =>
    modify fun b => { b with skipNewline := true, framesetOk := false }
    openText tag (.replaceable "textarea")
  | "xmp" =>
    closeOpenParagraph
    reconstruct
    forbidFrameset
    openText tag (.raw "xmp")
  | "iframe" =>
    forbidFrameset
    openText tag (.raw "iframe")
  | "noembed" => openText tag (.raw "noembed")
  | "noscript" => openText tag (.raw "noscript")
  | "select" =>
    reconstruct
    openTag tag
    forbidFrameset
    modify fun b =>
      { b with mode :=
          if [Mode.inTable, .inCaption, .inTableBody, .inRow, .inCell].contains b.mode then
            .inSelectInTable
          else .inSelect }
  | "optgroup" | "option" =>
    if ← currentIn ["option"] then pop
    reconstruct
    openTag tag
  | "rb" | "rtc" =>
    if ← inScope .default ["ruby"] then closeAllImplied
    openTag tag
  | "rp" | "rt" =>
    if ← inScope .default ["ruby"] then closeImplied impliedEnds "rtc"
    openTag tag
  | "math" =>
    reconstruct
    openForeign .mathml tag
  | "svg" =>
    reconstruct
    openForeign .svg tag
  | name =>
    if headElements.contains name then headElement tag
    else if blocks.contains name then
      closeOpenParagraph
      openTag tag
    else if formattingElements.contains name then
      reconstruct
      openFormatting tag
    else if voidElements.contains name then
      reconstruct
      voidTag tag
      if !(name == "input" && isHidden tag) then forbidFrameset
    else if misplacedElements.contains name then pure ()
    else
      reconstruct
      openTag tag
  return .done

/-- The elements that an end tag of theirs closes together with what is open in
them. -/
def closableBlocks : List String :=
  ["address", "article", "aside", "blockquote", "button", "center", "details", "dialog", "dir",
    "div", "dl", "fieldset", "figcaption", "figure", "footer", "header", "hgroup", "listing",
    "main", "menu", "nav", "ol", "pre", "search", "section", "summary", "ul"]

/-- Closes the form. -/
def closeForm : Build Unit := do
  if ← isOpen "template" then
    if ← inScope .default ["form"] then
      closeAllImplied
      popNamed ["form"]
  else
    match (← get).form with
    | none => pure ()
    | some id =>
      modify fun b => { b with form := none }
      if ← scopeHolds .default (· == id) then
        closeAllImplied
        removeOpen id

/-- An end tag in the body. -/
def bodyEnd (name : String) : Build Outcome := do
  match name with
  | "body" => if ← inScope .default ["body"] then goTo .afterBody
  | "html" => if ← inScope .default ["body"] then return ← againIn .afterBody
  | "template" => closeTemplate
  | "form" => closeForm
  | "p" =>
    if !(← inScope .button ["p"]) then openImplied "p"
    closeParagraph
  | "li" =>
    if ← inScope .listItem ["li"] then
      closeImplied impliedEnds "li"
      popNamed ["li"]
  | "dd" | "dt" =>
    if ← inScope .default [name] then
      closeImplied impliedEnds name
      popNamed [name]
  | "h1" | "h2" | "h3" | "h4" | "h5" | "h6" =>
    if ← inScope .default headings then
      closeAllImplied
      popNamed headings
  | "applet" | "marquee" | "object" =>
    if ← inScope .default [name] then
      closeAllImplied
      popNamed [name]
      unmark
  | "br" =>
    reconstruct
    voidTag { name := "br" }
    forbidFrameset
  | _ =>
    if closableBlocks.contains name then
      if ← inScope .default [name] then
        closeAllImplied
        popNamed [name]
    else if formattingElements.contains name || name == "a" || name == "nobr" then adopt name
    else closeOrdinary name
  return .done

/-- At the end of the text the open templates are closed one by one, each followed
by a look at the end by the rules of the mode outside it. -/
def templateEnd : Build Outcome := do
  if ← isOpen "template" then
    popNamed ["template"]
    unmark
    modify fun b => { b with templateModes := b.templateModes.drop 1 }
    againInReset
  else return .done

/-- In the body. -/
def inBodyStep (token : Token) : Build Outcome :=
  match token with
  | .comment | .doctype => return .done
  | .char c => do
    if c != '\x00' then
      reconstruct
      if !isAsciiBlank c then forbidFrameset
      insertChar c
    return .done
  | .startTag tag => bodyStart tag
  | .endTag name => bodyEnd name
  | .eof => do
    if (← get).templateModes.isEmpty then return .done else templateEnd

/-- Inside an element whose content is text. -/
def inTextStep (token : Token) : Build Outcome :=
  match token with
  | .char c => do insertChar c; return .done
  | .eof => do
    pop
    modify fun b => { b with mode := b.returnMode, textMode := .markup }
    return .again
  | .endTag _ => do
    pop
    modify fun b => { b with mode := b.returnMode, textMode := .markup }
    return .done
  | _ => return .done

end Build

end LinkPreview.Html
