import SelectorFinder.Html.Rules.Body

/-!
# Framesets and the End of a Page

The rules for framesets, and for what comes behind the body and behind the outermost
element.
-/

namespace SelectorFinder.Html.Build

open Builder

/-- What goes on in the body after all. -/
def backToBody : Build Next := do
  goTo .inBody
  return .again

/-- Behind the end of the body. -/
def afterBodyRules (e : Event) : Build Next := do
  match e with
  | .char c => if isBlankChar c then return .by .inBody else backToBody
  | .comment data =>
    if let some n := (← get).outermost? then commentIn n data
    return .done
  | .startTag tag => if tag.name == "html" then return .by .inBody else backToBody
  | .endTag name =>
    if name == "html" then
      goTo .afterAfterBody
      return .done
    else backToBody
  | .endOfPage => return .done

/-- In a frameset. -/
def inFramesetRules (e : Event) : Build Next := do
  match e with
  | .char c =>
    if isBlankChar c then insertChar c
    return .done
  | .comment data =>
    insertComment data
    return .done
  | .startTag tag =>
    if tag.name == "html" then return .by .inBody
    else if tag.name == "frameset" then
      let _ ← openTag tag
      return .done
    else if tag.name == "frame" then
      insertVoid tag
      return .done
    else if tag.name == "noframes" then return .by .inHead
    else return .done
  | .endTag name =>
    if name == "frameset" && (← get).stack.length > 1 then
      pop
      unless (← get).currentIsOne ["frameset"] do goTo .afterFrameset
    return .done
  | _ => return .done

/-- Behind a frameset. -/
def afterFramesetRules (e : Event) : Build Next := do
  match e with
  | .char c =>
    if isBlankChar c then insertChar c
    return .done
  | .comment data =>
    insertComment data
    return .done
  | .startTag tag =>
    if tag.name == "html" then return .by .inBody
    else if tag.name == "noframes" then return .by .inHead
    else return .done
  | .endTag name =>
    if name == "html" then goTo .afterAfterFrameset
    return .done
  | _ => return .done

/-- Behind the end of a page with a body. -/
def afterAfterBodyRules (e : Event) : Build Next := do
  match e with
  | .comment data =>
    commentIn Draft.page data
    return .done
  | .char c => if isBlankChar c then return .by .inBody else backToBody
  | .startTag tag => if tag.name == "html" then return .by .inBody else backToBody
  | .endTag _ => backToBody
  | .endOfPage => return .done

/-- Behind the end of a page with a frameset. -/
def afterAfterFramesetRules (e : Event) : Build Next := do
  match e with
  | .comment data =>
    commentIn Draft.page data
    return .done
  | .char c => return if isBlankChar c then .by .inBody else .done
  | .startTag tag =>
    if tag.name == "html" then return .by .inBody
    else if tag.name == "noframes" then return .by .inHead
    else return .done
  | _ => return .done

end SelectorFinder.Html.Build
