import SelectorFinder.Html.Adoption

/-!
# The Start of a Page

The rules up to the body: the document type, the outermost element, and the head with what
may stand in it.
-/

namespace SelectorFinder.Html.Build

open Builder

/-- Public identifiers of document types whose pages are legacy pages. -/
def legacyPublicIds : List String :=
  ["-//w3o//dtd w3 html strict 3.0//en//", "-/w3c/dtd html 4.0 transitional/en", "html"]

/-- Starts of public identifiers of document types whose pages are legacy pages. -/
def legacyPublicStarts : List String :=
  ["+//silmaril//dtd html pro v0r11 19970101//",
   "-//as//dtd html 3.0 aswedit + extensions//",
   "-//advasoft ltd//dtd html 3.0 aswedit + extensions//",
   "-//ietf//dtd html 2.0 level 1//", "-//ietf//dtd html 2.0 level 2//",
   "-//ietf//dtd html 2.0 strict level 1//", "-//ietf//dtd html 2.0 strict level 2//",
   "-//ietf//dtd html 2.0 strict//", "-//ietf//dtd html 2.0//", "-//ietf//dtd html 2.1e//",
   "-//ietf//dtd html 3.0//", "-//ietf//dtd html 3.2 final//", "-//ietf//dtd html 3.2//",
   "-//ietf//dtd html 3//", "-//ietf//dtd html level 0//", "-//ietf//dtd html level 1//",
   "-//ietf//dtd html level 2//", "-//ietf//dtd html level 3//",
   "-//ietf//dtd html strict level 0//", "-//ietf//dtd html strict level 1//",
   "-//ietf//dtd html strict level 2//", "-//ietf//dtd html strict level 3//",
   "-//ietf//dtd html strict//", "-//ietf//dtd html//",
   "-//metrius//dtd metrius presentational//",
   "-//microsoft//dtd internet explorer 2.0 html strict//",
   "-//microsoft//dtd internet explorer 2.0 html//",
   "-//microsoft//dtd internet explorer 2.0 tables//",
   "-//microsoft//dtd internet explorer 3.0 html strict//",
   "-//microsoft//dtd internet explorer 3.0 html//",
   "-//microsoft//dtd internet explorer 3.0 tables//",
   "-//netscape comm. corp.//dtd html//", "-//netscape comm. corp.//dtd strict html//",
   "-//o'reilly and associates//dtd html 2.0//",
   "-//o'reilly and associates//dtd html extended 1.0//",
   "-//o'reilly and associates//dtd html extended relaxed 1.0//",
   "-//sq//dtd html 2.0 hotmetal + extensions//",
   "-//softquad software//dtd hotmetal pro 6.0::19990601::extensions to html 4.0//",
   "-//softquad//dtd hotmetal pro 4.0::19971010::extensions to html 4.0//",
   "-//spyglass//dtd html 2.0 extended//",
   "-//sun microsystems corp.//dtd hotjava html//",
   "-//sun microsystems corp.//dtd hotjava strict html//",
   "-//w3c//dtd html 3 1995-03-24//", "-//w3c//dtd html 3.2 draft//",
   "-//w3c//dtd html 3.2 final//", "-//w3c//dtd html 3.2//", "-//w3c//dtd html 3.2s draft//",
   "-//w3c//dtd html 4.0 frameset//", "-//w3c//dtd html 4.0 transitional//",
   "-//w3c//dtd html experimental 19960712//", "-//w3c//dtd html experimental 970421//",
   "-//w3c//dtd w3 html//", "-//w3o//dtd w3 html 3.0//",
   "-//webtechs//dtd mozilla html 2.0//", "-//webtechs//dtd mozilla html//"]

/-- Starts of public identifiers whose pages are legacy pages unless they have a
system identifier. -/
def legacyAloneStarts : List String :=
  ["-//w3c//dtd html 4.01 frameset//", "-//w3c//dtd html 4.01 transitional//"]

/-- System identifiers of document types whose pages are legacy pages. -/
def legacySystemIds : List String :=
  ["http://www.ibm.com/data/dtd/v11/ibmxhtml1-transitional.dtd"]

/-- Whether the pages of a document type are legacy pages: in them a table may stand in a
paragraph. -/
def isLegacy (d : Doctype) : Bool :=
  let publicId := Text.lower (d.publicId.getD "")
  let startsAs (starts : List String) := starts.any fun s => publicId.startsWith s
  d.broken || d.name != some "html" || legacyPublicIds.contains publicId ||
    (d.systemId.any fun id => legacySystemIds.contains (Text.lower id)) ||
    startsAs legacyPublicStarts || (d.systemId.isNone && startsAs legacyAloneStarts)

/-- White space, which the rules often treat apart. -/
def isBlankChar (c : Char) : Bool :=
  isSpace c || c == '\r'

/-- The document type of the page. -/
def takeDoctype (d : Doctype) : Build Unit := do
  let _ ← insert (.doctype d)
  modify fun b => { b with legacy := isLegacy d, mode := .beforeHtml }

/-- Before anything but white space and comments was read. -/
def initialRules (e : Event) : Build Next := do
  match e with
  | .comment data =>
    commentIn Draft.page data
    return .done
  | e =>
    if let .char c := e then
      if isBlankChar c then return .done
    modify fun b => { b with legacy := true, mode := .beforeHtml }
    return .again

/-- Whether an end tag counts before there is a body. -/
def endsEarly (name : String) : Bool :=
  ["head", "body", "html", "br"].contains name

/-- Before the outermost element. -/
def beforeHtmlRules (e : Event) : Build Next := do
  let create : Build Next := do
    let _ ← openNamed "html"
    goTo .beforeHead
    return .again
  match e with
  | .comment data =>
    commentIn Draft.page data
    return .done
  | .char c => if isBlankChar c then return .done else create
  | .startTag tag =>
    if tag.name == "html" then
      let _ ← openTag tag
      goTo .beforeHead
      return .done
    else create
  | .endTag name => if endsEarly name then create else return .done
  | .endOfPage => create

/-- Opens the head. -/
def openHead (attributes : List (String × String)) : Build Unit := do
  let n ← openElement ⟨.html, "head"⟩ attributes
  modify fun b => { b with head := some n, mode := .inHead }

/-- Before the head. -/
def beforeHeadRules (e : Event) : Build Next := do
  let create : Build Next := do
    openHead []
    return .again
  match e with
  | .comment data =>
    insertComment data
    return .done
  | .char c => if isBlankChar c then return .done else create
  | .startTag tag =>
    if tag.name == "html" then return .by .inBody
    else if tag.name == "head" then
      openHead tag.attributes
      return .done
    else create
  | .endTag name => if endsEarly name then create else return .done
  | .endOfPage => create

/-- Elements of the head that have no content. -/
def headVoidNames : List String :=
  ["base", "basefont", "bgsound", "link", "meta"]

/-- Elements of the head whose start tags count in the body too. -/
def headNames : List String :=
  headVoidNames ++ ["noframes", "script", "style", "template", "title"]

/-- Opens a template. -/
def openTemplate (tag : Tag) : Build Unit := do
  let _ ← openTag tag
  addMarker
  noFrameset
  modify fun b => { b with mode := .inTemplate, templateModes := .inTemplate :: b.templateModes }

/-- Closes the innermost template with all that is open in it. -/
def closeTemplate : Build Unit := do
  popThrough ["template"]
  clearToMarker
  modify fun b => { b with templateModes := b.templateModes.tail }
  resetMode

/-- In the head. -/
def inHeadRules (e : Event) : Build Next := do
  let leave : Build Next := do
    pop
    goTo .afterHead
    return .again
  match e with
  | .comment data =>
    insertComment data
    return .done
  | .char c =>
    if isBlankChar c then
      insertChar c
      return .done
    else leave
  | .startTag tag =>
    if tag.name == "html" then return .by .inBody
    else if headVoidNames.contains tag.name then
      insertVoid tag
      return .done
    else if tag.name == "title" then
      openText tag (.escapable tag.name)
      return .done
    else if ["noframes", "style", "noscript"].contains tag.name then
      openText tag (.raw tag.name)
      return .done
    else if tag.name == "script" then
      openText tag .script
      return .done
    else if tag.name == "template" then
      openTemplate tag
      return .done
    else if tag.name == "head" then return .done
    else leave
  | .endTag name =>
    if name == "head" then
      pop
      goTo .afterHead
      return .done
    else if name == "template" then
      if (← get).isOpen "template" then
        allImpliedEnds
        closeTemplate
      return .done
    else if endsEarly name then leave
    else return .done
  | .endOfPage => leave

/-- Between the head and the body. What belongs in the head goes into it still. -/
def afterHeadRules (e : Event) : Build Next := do
  let create : Build Next := do
    let _ ← openNamed "body"
    goTo .inBody
    return .again
  match e with
  | .comment data =>
    insertComment data
    return .done
  | .char c =>
    if isBlankChar c then
      insertChar c
      return .done
    else create
  | .startTag tag =>
    if tag.name == "html" then return .by .inBody
    else if tag.name == "body" then
      let _ ← openTag tag
      noFrameset
      goTo .inBody
      return .done
    else if tag.name == "frameset" then
      let _ ← openTag tag
      goTo .inFrameset
      return .done
    else if headNames.contains tag.name then
      match (← get).head with
      | some head =>
        modify fun b => { b with stack := head :: b.stack }
        let next ← inHeadRules e
        removeFromStack head
        return next
      | none => inHeadRules e
    else if tag.name == "head" then return .done
    else create
  | .endTag name =>
    if name == "template" then return .by .inHead
    else if name == "body" || name == "html" || name == "br" then create
    else return .done
  | .endOfPage => create

end SelectorFinder.Html.Build
