import SelectorFinder.Html.Rules.Body

/-!
# Selects

The rules for a select. It holds options, groups of them and rules between, and its text;
all else is ignored or ends it. In a table, the parts of the table end it too.
-/

namespace SelectorFinder.Html.Build

open Builder

/-- Closes the select with what is open in it. -/
def closeSelect : Build Unit := do
  popThrough ["select"]
  resetMode

/-- Closes elements of the given names, each if it is the innermost when its turn comes. -/
def popEach (names : List String) : Build Unit :=
  for name in names do
    if (← get).currentIsOne [name] then pop

/-- In a select. -/
def inSelectRules (e : Event) : Build Next := do
  let b ← get
  let isInScope := b.inScope selectScope ["select"]
  match e with
  | .char c =>
    unless c = '\x00' do insertChar c
    return .done
  | .comment data =>
    insertComment data
    return .done
  | .startTag tag =>
    let name := tag.name
    if name == "html" then return .by .inBody
    else if name == "option" then
      popEach ["option"]
      let _ ← openTag tag
      return .done
    else if name == "optgroup" then
      popEach ["option", "optgroup"]
      let _ ← openTag tag
      return .done
    else if name == "hr" then
      popEach ["option", "optgroup"]
      insertVoid tag
      return .done
    else if name == "select" then
      if isInScope then closeSelect
      return .done
    else if ["input", "keygen", "textarea"].contains name then
      if isInScope then
        closeSelect
        return .again
      else return .done
    else if name == "script" || name == "template" then return .by .inHead
    else return .done
  | .endTag name =>
    if name == "optgroup" then
      if b.stack[1]?.any (b.isOne ["optgroup"]) then popEach ["option"]
      popEach ["optgroup"]
      return .done
    else if name == "option" then
      popEach ["option"]
      return .done
    else if name == "select" then
      if isInScope then closeSelect
      return .done
    else if name == "template" then return .by .inHead
    else return .done
  | .endOfPage => return .by .inBody

/-- The parts of a table that end a select in it. -/
def selectEndNames : List String :=
  ["caption", "table", "tbody", "td", "tfoot", "th", "thead", "tr"]

/-- In a select in a table. -/
def inSelectInTableRules (e : Event) : Build Next := do
  match e with
  | .startTag tag =>
    if selectEndNames.contains tag.name then
      closeSelect
      return .again
    else return .by .inSelect
  | .endTag name =>
    if selectEndNames.contains name then
      if (← get).inScope tableScope [name] then
        closeSelect
        return .again
      else return .done
    else return .by .inSelect
  | _ => return .by .inSelect

end SelectorFinder.Html.Build
