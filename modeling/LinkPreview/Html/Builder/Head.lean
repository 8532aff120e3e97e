import LinkPreview.Html.Builder.Formatting

/-!
# The rules before the body

The root element, the head and the elements that belong into it, and the
templates, which follow the rules of the head wherever they stand.
-/

namespace LinkPreview.Html

namespace Build

open Text (isAsciiBlank)

/-- A second root tag adds the attributes that the root element lacks. -/
def mergeRoot (tag : Tag) : Build Outcome := do
  if !(← isOpen "template") then
    let root := (← get).openElements.getLast?.getD Tree.root
    onTree (·.addMissing root tag.attributes)
  return .done

/-- Makes the root element. -/
def makeRoot (attributes : List Attribute) : Build Unit := do
  let id ← create ⟨.html, "html", attributes⟩
  onTree (·.append Tree.root id)
  push id

/-- The names whose end tags stand for the start of the content that is missing. -/
def openingEndTags : List String := ["head", "body", "html", "br"]

/-- Before the document type. -/
def initialStep (token : Token) : Build Outcome :=
  match token with
  | .char c => if isAsciiBlank c then return .done else againIn .beforeHtml
  | .comment => return .done
  | .doctype => do goTo .beforeHtml; return .done
  | _ => againIn .beforeHtml

/-- Before the root element. -/
def beforeHtmlStep (token : Token) : Build Outcome := do
  let anythingElse : Build Outcome := do
    makeRoot []
    againIn .beforeHead
  match token with
  | .comment | .doctype => return .done
  | .char c => if isAsciiBlank c then return .done else anythingElse
  | .startTag tag =>
    if tag.name = "html" then
      makeRoot tag.attributes
      goTo .beforeHead
      return .done
    else anythingElse
  | .endTag name => if openingEndTags.contains name then anythingElse else return .done
  | .eof => anythingElse

/-- Opens the head. -/
def openHead (tag : Tag) : Build Unit := do
  let id ← insert .html tag
  modify fun b => { b with head := some id, mode := .inHead }

/-- Before the head. -/
def beforeHeadStep (token : Token) : Build Outcome := do
  let anythingElse : Build Outcome := do
    openHead { name := "head" }
    return .again
  match token with
  | .comment | .doctype => return .done
  | .char c => if isAsciiBlank c then return .done else anythingElse
  | .startTag tag =>
    match tag.name with
    | "html" => mergeRoot tag
    | "head" => openHead tag; return .done
    | _ => anythingElse
  | .endTag name => if openingEndTags.contains name then anythingElse else return .done
  | .eof => anythingElse

/-- The start tags that follow the rules of the head in the body too. -/
def headElements : List String :=
  ["base", "basefont", "bgsound", "link", "meta", "noframes", "script", "style", "template",
    "title"]

/-- Opens a template. -/
def openTemplate (tag : Tag) : Build Unit := do
  openTag tag
  mark
  modify fun b =>
    { b with
      framesetOk := false
      mode := .inTemplate
      templateModes := .inTemplate :: b.templateModes }

/-- Closes a template, if one is open. -/
def closeTemplate : Build Unit := do
  if ← isOpen "template" then
    closeImplied thoroughlyImpliedEnds ""
    popNamed ["template"]
    unmark
    modify fun b => { b with templateModes := b.templateModes.drop 1 }
    resetMode

/-- A start tag of the head. Scripts run, so that the content of `noscript` is
text. -/
def headElement (tag : Tag) : Build Unit :=
  match tag.name with
  | "title" => openText tag (.replaceable "title")
  | "noframes" => openText tag (.raw "noframes")
  | "style" => openText tag (.raw "style")
  | "noscript" => openText tag (.raw "noscript")
  | "script" => openText tag .script
  | "template" => openTemplate tag
  | _ => voidTag tag

/-- In the head. -/
def inHeadStep (token : Token) : Build Outcome := do
  let anythingElse : Build Outcome := do
    pop
    againIn .afterHead
  match token with
  | .comment | .doctype => return .done
  | .char c =>
    if isAsciiBlank c then
      insertChar c
      return .done
    else anythingElse
  | .startTag tag =>
    match tag.name with
    | "html" => mergeRoot tag
    | "head" => return .done
    | name =>
      if headElements.contains name || name == "noscript" then
        headElement tag
        return .done
      else anythingElse
  | .endTag name =>
    match name with
    | "head" => pop; goTo .afterHead; return .done
    | "template" => closeTemplate; return .done
    | _ => if openingEndTags.contains name then anythingElse else return .done
  | .eof => anythingElse

/-- Behind the head. An element of the head that comes here still goes into it. -/
def afterHeadStep (token : Token) : Build Outcome := do
  let anythingElse : Build Outcome := do
    openImplied "body"
    againIn .inBody
  match token with
  | .comment | .doctype => return .done
  | .char c =>
    if isAsciiBlank c then
      insertChar c
      return .done
    else anythingElse
  | .startTag tag =>
    match tag.name with
    | "html" => mergeRoot tag
    | "head" => return .done
    | "body" =>
      openTag tag
      forbidFrameset
      goTo .inBody
      return .done
    | "frameset" =>
      openTag tag
      goTo .inFrameset
      return .done
    | name =>
      if headElements.contains name then
        let head := (← get).head.getD Tree.root
        push head
        headElement tag
        removeOpen head
        return .done
      else anythingElse
  | .endTag name =>
    match name with
    | "template" => closeTemplate; return .done
    | "body" | "html" | "br" => anythingElse
    | _ => return .done
  | .eof => anythingElse

end Build

end LinkPreview.Html
