import LinkPreview.Html.Builder.Table

/-!
# The rules of all modes

Selections, templates, framesets and the end of the document, drawings and
formulas, and the choice of the rules for a token. A token may be looked at several
times, since rules pass it on to those of another mode; each time something is
closed or the mode goes on towards the body, which bounds how often.
-/

namespace LinkPreview.Html

namespace Build

open Text (isAsciiBlank)

/-- In a selection. -/
def inSelectStep (token : Token) : Build Outcome := do
  match token with
  | .comment | .doctype => return .done
  | .char c =>
    if c != '\x00' then insertChar c
    return .done
  | .startTag tag =>
    match tag.name with
    | "html" => mergeRoot tag
    | "option" =>
      if ← currentIn ["option"] then pop
      openTag tag
      return .done
    | "optgroup" =>
      if ← currentIn ["option"] then pop
      if ← currentIn ["optgroup"] then pop
      openTag tag
      return .done
    | "hr" =>
      if ← currentIn ["option"] then pop
      if ← currentIn ["optgroup"] then pop
      voidTag tag
      return .done
    | "select" =>
      if ← inScope .select ["select"] then
        popNamed ["select"]
        resetMode
      return .done
    | "input" | "keygen" | "textarea" =>
      if ← inScope .select ["select"] then
        popNamed ["select"]
        againInReset
      else return .done
    | "script" | "template" => headElement tag; return .done
    | _ => return .done
  | .endTag name =>
    match name with
    | "optgroup" =>
      let b ← get
      match b.openElements with
      | option :: group :: _ =>
        if b.tree.isHtml option "option" && b.tree.isHtml group "optgroup" then pop
      | _ => pure ()
      if ← currentIn ["optgroup"] then pop
      return .done
    | "option" =>
      if ← currentIn ["option"] then pop
      return .done
    | "select" =>
      if ← inScope .select ["select"] then
        popNamed ["select"]
        resetMode
      return .done
    | "template" => closeTemplate; return .done
    | _ => return .done
  | .eof => inBodyStep token

/-- The tags that end a selection in a table. -/
def selectionEnds : List String :=
  ["caption", "table", "tbody", "tfoot", "thead", "tr", "td", "th"]

/-- In a selection in a table. -/
def inSelectInTableStep (token : Token) : Build Outcome := do
  match token with
  | .startTag tag =>
    if selectionEnds.contains tag.name then
      popNamed ["select"]
      againInReset
    else inSelectStep token
  | .endTag name =>
    if selectionEnds.contains name then
      if ← inScope .table [name] then
        popNamed ["select"]
        againInReset
      else return .done
    else inSelectStep token
  | _ => inSelectStep token

/-- In a template. Its first element decides by which rules its content is read. -/
def inTemplateStep (token : Token) : Build Outcome := do
  let contentIn (mode : Mode) : Build Outcome := do
    modify fun b => { b with templateModes := mode :: b.templateModes.drop 1 }
    againIn mode
  match token with
  | .comment | .doctype => return .done
  | .char _ => inBodyStep token
  | .startTag tag =>
    match tag.name with
    | "caption" | "colgroup" | "tbody" | "tfoot" | "thead" => contentIn .inTable
    | "col" => contentIn .inColumnGroup
    | "tr" => contentIn .inTableBody
    | "td" | "th" => contentIn .inRow
    | name =>
      if headElements.contains name then
        headElement tag
        return .done
      else contentIn .inBody
  | .endTag name =>
    if name = "template" then closeTemplate
    return .done
  | .eof => templateEnd

/-- Behind the body. -/
def afterBodyStep (token : Token) : Build Outcome := do
  match token with
  | .comment | .doctype | .eof => return .done
  | .char c => if isAsciiBlank c then inBodyStep token else againIn .inBody
  | .startTag tag => if tag.name = "html" then mergeRoot tag else againIn .inBody
  | .endTag name =>
    if name = "html" then
      goTo .afterAfterBody
      return .done
    else againIn .inBody

/-- In a frameset. -/
def inFramesetStep (token : Token) : Build Outcome := do
  match token with
  | .comment | .doctype | .eof => return .done
  | .char c =>
    if isAsciiBlank c then insertChar c
    return .done
  | .startTag tag =>
    match tag.name with
    | "html" => mergeRoot tag
    | "frameset" => openTag tag; return .done
    | "frame" => voidTag tag; return .done
    | "noframes" => headElement tag; return .done
    | _ => return .done
  | .endTag name =>
    if name = "frameset" && (← get).openElements.length > 1 then
      pop
      if !(← currentIn ["frameset"]) then goTo .afterFrameset
    return .done

/-- Behind a frameset. -/
def afterFramesetStep (token : Token) : Build Outcome := do
  match token with
  | .comment | .doctype | .eof => return .done
  | .char c =>
    if isAsciiBlank c then insertChar c
    return .done
  | .startTag tag =>
    match tag.name with
    | "html" => mergeRoot tag
    | "noframes" => headElement tag; return .done
    | _ => return .done
  | .endTag name =>
    if name = "html" then goTo .afterAfterFrameset
    return .done

/-- Behind the end of a document with a body. -/
def afterAfterBodyStep (token : Token) : Build Outcome := do
  match token with
  | .comment | .doctype | .eof => return .done
  | .char c => if isAsciiBlank c then inBodyStep token else againIn .inBody
  | .startTag tag => if tag.name = "html" then mergeRoot tag else againIn .inBody
  | .endTag _ => againIn .inBody

/-- Behind the end of a document with a frameset. -/
def afterAfterFramesetStep (token : Token) : Build Outcome := do
  match token with
  | .char c => if isAsciiBlank c then inBodyStep token else return .done
  | .startTag tag =>
    match tag.name with
    | "html" => mergeRoot tag
    | "noframes" => headElement tag; return .done
    | _ => return .done
  | _ => return .done

/-- The rules of a mode. -/
def modeStep (mode : Mode) (token : Token) : Build Outcome :=
  match mode with
  | .initial => initialStep token
  | .beforeHtml => beforeHtmlStep token
  | .beforeHead => beforeHeadStep token
  | .inHead => inHeadStep token
  | .afterHead => afterHeadStep token
  | .inBody => inBodyStep token
  | .inText => inTextStep token
  | .inTable => inTableStep token
  | .inTableText => inTableTextStep token
  | .inCaption => inCaptionStep token
  | .inColumnGroup => inColumnGroupStep token
  | .inTableBody => inTableBodyStep token
  | .inRow => inRowStep token
  | .inCell => inCellStep token
  | .inSelect => inSelectStep token
  | .inSelectInTable => inSelectInTableStep token
  | .inTemplate => inTemplateStep token
  | .afterBody => afterBodyStep token
  | .inFrameset => inFramesetStep token
  | .afterFrameset => afterFramesetStep token
  | .afterAfterBody => afterAfterBodyStep token
  | .afterAfterFrameset => afterAfterFramesetStep token

/-! ### Drawings and formulas -/

/-- The current element, if it belongs to a drawing or a formula. -/
def currentForeign? : Build (Option Element) := do
  let b ← get
  return match b.openElements.head?.bind b.tree.element? with
    | some e => if e.vocabulary == .html then none else some e
    | none => none

/-- Whether a token in this element of a drawing or a formula follows the rules of
drawings and formulas. -/
def isForeign (e : Element) (token : Token) : Bool :=
  match token with
  | .eof => false
  | .char _ => !(isFormulaText e || isDrawingText e)
  | .startTag tag =>
    if isFormulaText e then ["mglyph", "malignmark"].contains tag.name
    else if isDrawingText e then false
    else !(e.vocabulary == .mathml && e.name == "annotation-xml" && tag.name == "svg")
  | _ => true

/-- The elements of HTML that end a drawing or a formula. -/
def breakingElements : List String :=
  ["b", "big", "blockquote", "body", "br", "center", "code", "dd", "div", "dl", "dt", "em",
    "embed", "h1", "h2", "h3", "h4", "h5", "h6", "head", "hr", "i", "img", "li", "listing",
    "menu", "meta", "nobr", "ol", "p", "pre", "ruby", "s", "small", "span", "strong",
    "strike", "sub", "sup", "table", "tt", "u", "ul", "var"]

/-- Whether a start tag ends a drawing or a formula. -/
def breaksOut (tag : Tag) : Bool :=
  breakingElements.contains tag.name ||
    (tag.name == "font" &&
      tag.attributes.any fun a => ["color", "face", "size"].contains a.name)

/-- The names of drawings that have capital letters. -/
def drawingNames : List String :=
  ["altGlyph", "altGlyphDef", "altGlyphItem", "animateColor", "animateMotion",
    "animateTransform", "clipPath", "feBlend", "feColorMatrix", "feComponentTransfer",
    "feComposite", "feConvolveMatrix", "feDiffuseLighting", "feDisplacementMap",
    "feDistantLight", "feDropShadow", "feFlood", "feFuncA", "feFuncB", "feFuncG", "feFuncR",
    "feGaussianBlur", "feImage", "feMerge", "feMergeNode", "feMorphology", "feOffset",
    "fePointLight", "feSpecularLighting", "feSpotLight", "feTile", "feTurbulence",
    "foreignObject", "glyphRef", "linearGradient", "radialGradient", "textPath"]

/-- The name that an element of a drawing has, from the small letters of its tag. -/
def drawingName (name : String) : String :=
  (drawingNames.find? fun proper =>
    String.ofList (Text.asciiLower proper.toList) == name).getD name

/-- A start tag in a drawing or a formula. -/
def foreignStart (e : Element) (tag : Tag) : Build Outcome := do
  if breaksOut tag then
    popForeign
    modeStep (← get).mode (.startTag tag)
  else
    let name := if e.vocabulary == .svg then drawingName tag.name else tag.name
    openForeign e.vocabulary { tag with name }
    return .done
where
  /-- Closes the elements that hold no HTML. -/
  popForeign : Build Unit :=
    modify fun b =>
      { b with openElements := b.openElements.dropWhile fun id =>
          match b.tree.element? id with
          | some e => !(e.vocabulary == .html || isFormulaText e || isDrawingText e)
          | none => false }

/-- An end tag in a drawing or a formula closes the newest element of this name,
in any case of its letters. Where an element of HTML comes first, its mode decides. -/
def foreignEnd (name : String) : Build Outcome := do
  let b ← get
  let isNamed (id : NodeId) : Bool :=
    match b.tree.element? id with
    | some e => Text.eqIgnoringAsciiCase e.name.toList name.toList
    | none => false
  let isHtmlElement (id : NodeId) : Bool :=
    match b.tree.element? id with
    | some e => e.vocabulary == .html
    | none => false
  let rec search : Bool → List NodeId → Build Outcome
    | _, [] => return .done
    | _, [_] => return .done
    | first, id :: rest => do
      if !first && isHtmlElement id then modeStep b.mode (.endTag name)
      else if isNamed id then
        set { b with openElements := rest }
        return .done
      else search false rest
  search true b.openElements

/-- A token in a drawing or a formula. -/
def foreignStep (e : Element) (token : Token) : Build Outcome := do
  match token with
  | .char c =>
    if c = '\x00' then insertChar '\ufffd'
    else
      if !isAsciiBlank c then forbidFrameset
      insertChar c
    return .done
  | .startTag tag => foreignStart e tag
  | .endTag name => foreignEnd name
  | _ => return .done

/-- Looks at a token once. -/
def look (token : Token) : Build Outcome := do
  let current ← currentForeign?
  match current.filter (isForeign · token) with
  | some e => foreignStep e token
  | none => modeStep (← get).mode token

/-- Looks at a token at most `n` times. -/
def lookUpTo (token : Token) : Nat → Build Unit
  | 0 => pure ()
  | n + 1 => do
    match ← look token with
    | .again => lookUpTo token n
    | .done => pure ()

/-- Takes in a token. -/
def take (token : Token) : Build Unit := do
  let b ← get
  set { b with skipNewline := false }
  if !(b.skipNewline && token == .char '\n') then
    lookUpTo token (24 + 4 * b.openElements.length)

end Build

end LinkPreview.Html
