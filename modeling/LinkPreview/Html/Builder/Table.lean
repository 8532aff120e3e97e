import LinkPreview.Html.Builder.Body

/-!
# The rules of tables

What a table does not allow is fostered: it goes in front of the table.
-/

namespace LinkPreview.Html

namespace Build

open Text (isAsciiBlank)

/-- Follows the rules of the body, with fostering. -/
def foster (token : Token) : Build Outcome := do
  modify fun b => { b with fostering := true }
  let outcome ← inBodyStep token
  modify fun b => { b with fostering := false }
  return outcome

/-- The parts of a table, from the outside in. -/
def tableParts : List String :=
  ["body", "caption", "col", "colgroup", "html", "tbody", "td", "tfoot", "th", "thead", "tr"]

/-- The start tags that end a caption or a cell. -/
def tableStarts : List String :=
  ["caption", "col", "colgroup", "tbody", "td", "tfoot", "th", "thead", "tr"]

/-- The groups of rows. -/
def rowGroups : List String := ["tbody", "tfoot", "thead"]

/-- In a table. -/
def inTableStep (token : Token) : Build Outcome := do
  match token with
  | .comment | .doctype => return .done
  | .char _ =>
    if ← currentIn fosteringElements then
      modify fun b => { b with tableText := [], returnMode := b.mode, mode := .inTableText }
      return .again
    else foster token
  | .startTag tag =>
    match tag.name with
    | "caption" =>
      popTo ["html", "table", "template"]
      mark
      openTag tag
      goTo .inCaption
      return .done
    | "colgroup" =>
      popTo ["html", "table", "template"]
      openTag tag
      goTo .inColumnGroup
      return .done
    | "col" =>
      popTo ["html", "table", "template"]
      openImplied "colgroup"
      againIn .inColumnGroup
    | "tbody" | "tfoot" | "thead" =>
      popTo ["html", "table", "template"]
      openTag tag
      goTo .inTableBody
      return .done
    | "td" | "th" | "tr" =>
      popTo ["html", "table", "template"]
      openImplied "tbody"
      againIn .inTableBody
    | "table" =>
      if ← inScope .table ["table"] then
        popNamed ["table"]
        againInReset
      else return .done
    | "style" | "script" | "template" =>
      headElement tag
      return .done
    | "input" =>
      if isHidden tag then
        voidTag tag
        return .done
      else foster token
    | "form" =>
      if !(← isOpen "template") && (← get).form.isNone then
        let id ← insertVoid .html tag
        modify fun b => { b with form := some id }
      return .done
    | _ => foster token
  | .endTag name =>
    match name with
    | "table" =>
      if ← inScope .table ["table"] then
        popNamed ["table"]
        resetMode
      return .done
    | "template" => closeTemplate; return .done
    | _ => if tableParts.contains name then return .done else foster token
  | .eof => inBodyStep token

/-- Text in a table: it stays there if it is blank, and is fostered otherwise. -/
def inTableTextStep (token : Token) : Build Outcome := do
  match token with
  | .char c =>
    if c != '\x00' then modify fun b => { b with tableText := c :: b.tableText }
    return .done
  | .doctype => return .done
  | _ =>
    let b ← get
    let text := b.tableText.reverse
    if text.all isAsciiBlank then text.forM insertChar
    else text.forM fun c => do let _ ← foster (.char c)
    againIn b.returnMode

/-- In a caption. -/
def inCaptionStep (token : Token) : Build Outcome := do
  let close : Build Bool := do
    if ← inScope .table ["caption"] then
      closeAllImplied
      popNamed ["caption"]
      unmark
      goTo .inTable
      return true
    else return false
  match token with
  | .startTag tag =>
    if tableStarts.contains tag.name then
      if ← close then return .again else return .done
    else inBodyStep token
  | .endTag name =>
    match name with
    | "table" => if ← close then return .again else return .done
    | "caption" =>
      let _ ← close
      return .done
    | _ => if tableParts.contains name then return .done else inBodyStep token
  | _ => inBodyStep token

/-- In a group of columns. -/
def inColumnGroupStep (token : Token) : Build Outcome := do
  let anythingElse : Build Outcome := do
    if ← currentIn ["colgroup"] then
      pop
      againIn .inTable
    else return .done
  match token with
  | .comment | .doctype => return .done
  | .char c =>
    if isAsciiBlank c then
      insertChar c
      return .done
    else anythingElse
  | .startTag tag =>
    match tag.name with
    | "html" => mergeRoot tag
    | "col" => voidTag tag; return .done
    | "template" => headElement tag; return .done
    | _ => anythingElse
  | .endTag name =>
    match name with
    | "colgroup" =>
      if ← currentIn ["colgroup"] then
        pop
        goTo .inTable
      return .done
    | "col" => return .done
    | "template" => closeTemplate; return .done
    | _ => anythingElse
  | .eof => inBodyStep token

/-- In a group of rows. -/
def inTableBodyStep (token : Token) : Build Outcome := do
  let bounds := ["tbody", "tfoot", "thead", "template", "html"]
  let leave : Build Outcome := do
    if ← inScope .table rowGroups then
      popTo bounds
      pop
      againIn .inTable
    else return .done
  match token with
  | .startTag tag =>
    match tag.name with
    | "tr" =>
      popTo bounds
      openTag tag
      goTo .inRow
      return .done
    | "td" | "th" =>
      popTo bounds
      openImplied "tr"
      againIn .inRow
    | "caption" | "col" | "colgroup" | "tbody" | "tfoot" | "thead" => leave
    | _ => inTableStep token
  | .endTag name =>
    match name with
    | "tbody" | "tfoot" | "thead" =>
      if ← inScope .table [name] then
        popTo bounds
        pop
        goTo .inTable
      return .done
    | "table" => leave
    | _ => if tableParts.contains name then return .done else inTableStep token
  | _ => inTableStep token

/-- In a row. -/
def inRowStep (token : Token) : Build Outcome := do
  let bounds := ["tr", "template", "html"]
  let close : Build Bool := do
    if ← inScope .table ["tr"] then
      popTo bounds
      pop
      goTo .inTableBody
      return true
    else return false
  let leave : Build Outcome := do
    if ← close then return .again else return .done
  match token with
  | .startTag tag =>
    match tag.name with
    | "td" | "th" =>
      popTo bounds
      openTag tag
      goTo .inCell
      mark
      return .done
    | "caption" | "col" | "colgroup" | "tbody" | "tfoot" | "thead" | "tr" => leave
    | _ => inTableStep token
  | .endTag name =>
    match name with
    | "tr" =>
      let _ ← close
      return .done
    | "table" => leave
    | "tbody" | "tfoot" | "thead" =>
      if ← inScope .table [name] then leave else return .done
    | _ => if tableParts.contains name then return .done else inTableStep token
  | _ => inTableStep token

/-- Closes the open cell. -/
def closeCell : Build Unit := do
  closeAllImplied
  popNamed ["td", "th"]
  unmark
  goTo .inRow

/-- In a cell. -/
def inCellStep (token : Token) : Build Outcome := do
  match token with
  | .startTag tag =>
    if tableStarts.contains tag.name then
      if ← inScope .table ["td", "th"] then
        closeCell
        return .again
      else return .done
    else inBodyStep token
  | .endTag name =>
    match name with
    | "td" | "th" =>
      if ← inScope .table [name] then
        closeAllImplied
        popNamed [name]
        unmark
        goTo .inRow
      return .done
    | "body" | "caption" | "col" | "colgroup" | "html" => return .done
    | "table" | "tbody" | "tfoot" | "thead" | "tr" =>
      if ← inScope .table [name] then
        closeCell
        return .again
      else return .done
    | _ => inBodyStep token
  | _ => inBodyStep token

end Build

end LinkPreview.Html
