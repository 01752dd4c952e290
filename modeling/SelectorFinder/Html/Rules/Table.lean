import SelectorFinder.Html.Rules.Body

/-!
# Tables and Templates

The rules for tables and their parts. A part that is missing is opened, one that must be
over is closed, and what belongs in no table is put before it. A template takes on the rules
that fit the first thing in it.
-/

namespace SelectorFinder.Html.Build

open Builder SelectorFinder.Text

/-- Parts of a table, by their names. -/
def tablePartNames : List String :=
  ["caption", "col", "colgroup", "tbody", "td", "tfoot", "th", "thead", "tr"]

/-- The groups of rows. -/
def rowGroupNames : List String :=
  ["tbody", "tfoot", "thead"]

/-- Closes what is open in an element of a table with one of the names. -/
def clearTo (names : List String) : Build Unit :=
  popTo fun b n => b.isOne (names ++ ["template", "html"]) n

/-- In a table, outside of its rows. -/
def inTableRules (e : Event) : Build Next := do
  let b ← get
  match e with
  | .char _ =>
    if b.currentIsOne fosterNames then
      modify fun b => { b with tableText := [], returnMode := b.mode, mode := .inTableText }
      return .again
    else return .fostered
  | .comment data =>
    insertComment data
    return .done
  | .startTag tag =>
    let name := tag.name
    if name == "caption" then
      clearTo ["table"]
      addMarker
      let _ ← openTag tag
      goTo .inCaption
      return .done
    else if name == "colgroup" then
      clearTo ["table"]
      let _ ← openTag tag
      goTo .inColumnGroup
      return .done
    else if name == "col" then
      clearTo ["table"]
      let _ ← openNamed "colgroup"
      goTo .inColumnGroup
      return .again
    else if rowGroupNames.contains name then
      clearTo ["table"]
      let _ ← openTag tag
      goTo .inTableBody
      return .done
    else if ["td", "th", "tr"].contains name then
      clearTo ["table"]
      let _ ← openNamed "tbody"
      goTo .inTableBody
      return .again
    else if name == "table" then
      if b.inScope tableScope ["table"] then
        popThrough ["table"]
        resetMode
        return .again
      else return .done
    else if ["style", "script", "template"].contains name then return .by .inHead
    else if name == "input" then
      if (tag.attributes.lookup "type").any (sameName · "hidden") then
        insertVoid tag
        return .done
      else return .fostered
    else if name == "form" then
      if b.form.isNone && !b.isOpen "template" then
        let n ← openTag tag
        modify fun b => { b with form := some n }
        pop
      return .done
    else return .fostered
  | .endTag name =>
    if name == "table" then
      if b.inScope tableScope ["table"] then
        popThrough ["table"]
        resetMode
      return .done
    else if name == "body" || name == "html" || tablePartNames.contains name then return .done
    else if name == "template" then return .by .inHead
    else return .fostered
  | .endOfPage => return .by .inBody

/-- In the text of a table: it is held back until something else comes, and stays in the
table only if it is white space. -/
def inTableTextRules (e : Event) : Build Next := do
  match e with
  | .char c =>
    unless c = '\x00' do modify fun b => { b with tableText := c :: b.tableText }
    return .done
  | _ =>
    let text := (← get).tableText.reverse
    if text.all isBlankChar then
      for c in text do insertChar c
    else
      modify fun b => { b with fostering := true }
      for c in text do
        let _ ← inBodyRules (.char c)
      modify fun b => { b with fostering := false }
    modify fun b => { b with tableText := [], mode := b.returnMode }
    return .again

/-- Closes the caption; the answer tells whether there was one. -/
def closeCaption : Build Bool := do
  if (← get).inScope tableScope ["caption"] then
    impliedEnds []
    popThrough ["caption"]
    clearToMarker
    goTo .inTable
    return true
  else return false

/-- In a caption. -/
def inCaptionRules (e : Event) : Build Next := do
  match e with
  | .startTag tag =>
    if tablePartNames.contains tag.name then
      return if ← closeCaption then .again else .done
    else return .by .inBody
  | .endTag name =>
    if name == "caption" then
      let _ ← closeCaption
      return .done
    else if name == "table" then return if ← closeCaption then .again else .done
    else if name == "body" || name == "html" || tablePartNames.contains name then return .done
    else return .by .inBody
  | _ => return .by .inBody

/-- In a group of columns. -/
def inColumnGroupRules (e : Event) : Build Next := do
  let leave (next : Next) : Build Next := do
    if (← get).currentIsOne ["colgroup"] then
      pop
      goTo .inTable
      return next
    else return .done
  match e with
  | .char c =>
    if isBlankChar c then
      insertChar c
      return .done
    else leave .again
  | .comment data =>
    insertComment data
    return .done
  | .startTag tag =>
    if tag.name == "html" then return .by .inBody
    else if tag.name == "col" then
      insertVoid tag
      return .done
    else if tag.name == "template" then return .by .inHead
    else leave .again
  | .endTag name =>
    if name == "colgroup" then leave .done
    else if name == "col" then return .done
    else if name == "template" then return .by .inHead
    else leave .again
  | .endOfPage => return .by .inBody

/-- Closes the innermost part of a table, with what is open in it, and goes to a mode. -/
def closePart (names : List String) (mode : Mode) : Build Unit := do
  clearTo names
  pop
  goTo mode

/-- In a group of rows. -/
def inTableBodyRules (e : Event) : Build Next := do
  let b ← get
  let leave : Build Next := do
    if b.inScope tableScope ["table", "tbody", "tfoot"] then
      closePart rowGroupNames .inTable
      return .again
    else return .done
  match e with
  | .startTag tag =>
    if tag.name == "tr" then
      clearTo rowGroupNames
      let _ ← openTag tag
      goTo .inRow
      return .done
    else if tag.name == "th" || tag.name == "td" then
      clearTo rowGroupNames
      let _ ← openNamed "tr"
      goTo .inRow
      return .again
    else if tablePartNames.contains tag.name then leave
    else return .by .inTable
  | .endTag name =>
    if rowGroupNames.contains name then
      if b.inScope tableScope [name] then closePart rowGroupNames .inTable
      return .done
    else if name == "table" then leave
    else if name == "body" || name == "html" || tablePartNames.contains name then return .done
    else return .by .inTable
  | _ => return .by .inTable

/-- In a row. -/
def inRowRules (e : Event) : Build Next := do
  let b ← get
  let leave (next : Next) : Build Next := do
    if b.inScope tableScope ["tr"] then
      closePart ["tr"] .inTableBody
      return next
    else return .done
  match e with
  | .startTag tag =>
    if tag.name == "th" || tag.name == "td" then
      clearTo ["tr"]
      let _ ← openTag tag
      goTo .inCell
      addMarker
      return .done
    else if tablePartNames.contains tag.name then leave .again
    else return .by .inTable
  | .endTag name =>
    if name == "tr" then leave .done
    else if name == "table" then leave .again
    else if rowGroupNames.contains name then
      if b.inScope tableScope [name] then leave .again else return .done
    else if name == "body" || name == "html" || tablePartNames.contains name then return .done
    else return .by .inTable
  | _ => return .by .inTable

/-- Closes the cell. -/
def closeCell : Build Unit := do
  impliedEnds []
  popThrough ["td", "th"]
  clearToMarker
  goTo .inRow

/-- In a cell. -/
def inCellRules (e : Event) : Build Next := do
  let b ← get
  match e with
  | .startTag tag =>
    if tablePartNames.contains tag.name then
      if b.inScope tableScope ["td", "th"] then
        closeCell
        return .again
      else return .done
    else return .by .inBody
  | .endTag name =>
    if name == "td" || name == "th" then
      if b.inScope tableScope [name] then
        impliedEnds []
        popThrough [name]
        clearToMarker
        goTo .inRow
      return .done
    else if name == "table" || name == "tr" || rowGroupNames.contains name then
      if b.inScope tableScope [name] then
        closeCell
        return .again
      else return .done
    else if name == "body" || name == "html" || tablePartNames.contains name then return .done
    else return .by .inBody
  | _ => return .by .inBody

/-- Takes on a mode for the rest of a template. -/
def becomeMode (mode : Mode) : Build Next := do
  modify fun b => { b with mode, templateModes := mode :: b.templateModes.tail }
  return .again

/-- In a template, before anything tells what it holds. -/
def inTemplateRules (e : Event) : Build Next := do
  match e with
  | .startTag tag =>
    let name := tag.name
    if headNames.contains name then return .by .inHead
    else if ["caption", "colgroup", "tbody", "tfoot", "thead"].contains name then
      becomeMode .inTable
    else if name == "col" then becomeMode .inColumnGroup
    else if name == "tr" then becomeMode .inTableBody
    else if name == "td" || name == "th" then becomeMode .inRow
    else becomeMode .inBody
  | .endTag name => return if name == "template" then .by .inHead else .done
  | .endOfPage =>
    if (← get).isOpen "template" then
      closeTemplate
      return .again
    else return .done
  | _ => return .by .inBody

end SelectorFinder.Html.Build
