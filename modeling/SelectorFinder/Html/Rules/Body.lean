import SelectorFinder.Html.Foreign
import SelectorFinder.Html.Rules.Head

/-!
# The Body of a Page

The rules for the body: which elements end a paragraph, which end each other, which are
opened again as formatting, and which take in their text as it stands.
-/

namespace SelectorFinder.Html.Build

open Builder SelectorFinder.Text

/-- Elements that end a paragraph and are closed by their end tags with what is open in
them. -/
def blockNames : List String :=
  ["address", "article", "aside", "blockquote", "center", "details", "dialog", "dir", "div",
   "dl", "fieldset", "figcaption", "figure", "footer", "header", "hgroup", "main", "menu",
   "nav", "ol", "search", "section", "summary", "ul"]

/-- Headings. -/
def headingNames : List String :=
  ["h1", "h2", "h3", "h4", "h5", "h6"]

/-- Formatting elements that start like any other. -/
def formattingNames : List String :=
  ["b", "big", "code", "em", "font", "i", "s", "small", "strike", "strong", "tt", "u"]

/-- Elements that hide the formatting around them from what is in them. -/
def islandNames : List String :=
  ["applet", "marquee", "object"]

/-- Parts of tables and framesets, whose start tags are ignored in the body. -/
def misplacedNames : List String :=
  ["caption", "col", "colgroup", "frame", "head", "tbody", "td", "tfoot", "th", "thead", "tr"]

/-- The innermost open element of a list that a new item ends, with its name; special
elements other than `address`, `div` and `p` hide what is around them. -/
def openItem? (b : Builder) (names : List String) : List Nat → Option String
  | [] => none
  | n :: outer =>
    if b.isOne names n then (b.name? n).map ElementName.localName
    else if isSpecial b n && !b.isOne ["address", "div", "p"] n then none
    else openItem? b names outer

/-- Opens an item of a list, behind the item that it ends. -/
def openItem (names : List String) (tag : Tag) : Build Unit := do
  noFrameset
  let b ← get
  if let some name := openItem? b names b.stack then
    impliedEnds [name]
    popThrough [name]
  closeOpenParagraph
  let _ ← openTag tag

/-- Opens a formatting element. -/
def openFormatting (tag : Tag) : Build Unit := do
  reopenFormatting
  let n ← openTag tag
  addFormatting n tag

/-- Takes an element out of the stack and out of the list of formatting elements. -/
def forget (n : Nat) : Build Unit := do
  removeFormatting n
  removeFromStack n

/-- Opens a link; a link that is open behind the last marker is closed. -/
def openLink (tag : Tag) : Build Unit := do
  let isLink : Formatting → Option Nat
    | .element n t => if t.name = "a" then some n else none
    | .marker => none
  if let some n := (sinceMarker (← get).formatting).findSome? isLink then
    closeFormatting "a"
    forget n
  openFormatting tag

/-- Opens an option or a group of options, behind an option that is open. -/
def openOption (tag : Tag) : Build Unit := do
  if (← get).currentIsOne ["option"] then pop
  reopenFormatting
  let _ ← openTag tag

/-- The modes in which a select stands in a table. -/
def tableModes : List Mode :=
  [.inTable, .inCaption, .inTableBody, .inRow, .inCell]

/-- Opens a select. -/
def openSelect (tag : Tag) : Build Unit := do
  reopenFormatting
  let _ ← openTag tag
  noFrameset
  goTo (if tableModes.contains (← get).mode then .inSelectInTable else .inSelect)

/-- Puts a frameset in the place of the body, if nothing speaks against it. -/
def openFrameset (tag : Tag) : Build Unit := do
  let b ← get
  match b.bodyElement? with
  | some body =>
    if b.framesetOk then
      modify fun b => { b with
        draft := b.draft.detach body, stack := b.outermost?.toList, mode := .inFrameset }
      let _ ← openTag tag
  | none => return

/-- An image, or a thing like it: it stands in the text and has no content. -/
def insertInline (tag : Tag) : Build Unit := do
  reopenFormatting
  insertVoid tag

/-- A start tag in the body. -/
def bodyStart (tag : Tag) : Build Next := do
  let b ← get
  let name := tag.name
  if name == "html" then
    unless b.isOpen "template" do
      if let some n := b.outermost? then
        modify fun b => { b with draft := b.draft.addMissingAttributes n tag.attributes }
    return .done
  else if headNames.contains name then return .by .inHead
  else if name == "body" then
    if let some n := b.bodyElement? then
      unless b.isOpen "template" do
        noFrameset
        modify fun b => { b with draft := b.draft.addMissingAttributes n tag.attributes }
    return .done
  else if name == "frameset" then
    openFrameset tag
    return .done
  else if name == "p" || blockNames.contains name then
    closeOpenParagraph
    let _ ← openTag tag
    return .done
  else if headingNames.contains name then
    closeOpenParagraph
    if (← get).currentIsOne headingNames then pop
    let _ ← openTag tag
    return .done
  else if name == "pre" || name == "listing" then
    closeOpenParagraph
    let _ ← openTag tag
    noFrameset
    modify fun b => { b with skipLineFeed := true }
    return .done
  else if name == "form" then
    let inTemplate := b.isOpen "template"
    if b.form.isNone || inTemplate then
      closeOpenParagraph
      let n ← openTag tag
      unless inTemplate do modify fun b => { b with form := some n }
    return .done
  else if name == "li" then
    openItem ["li"] tag
    return .done
  else if name == "dd" || name == "dt" then
    openItem ["dd", "dt"] tag
    return .done
  else if name == "plaintext" then
    closeOpenParagraph
    let _ ← openTag tag
    modify fun b => { b with textMode := .plain }
    return .done
  else if name == "button" then
    if b.inScope defaultScope ["button"] then
      impliedEnds []
      popThrough ["button"]
    reopenFormatting
    let _ ← openTag tag
    noFrameset
    return .done
  else if name == "a" then
    openLink tag
    return .done
  else if formattingNames.contains name then
    openFormatting tag
    return .done
  else if name == "nobr" then
    reopenFormatting
    if (← get).inScope defaultScope ["nobr"] then closeFormatting "nobr"
    openFormatting tag
    return .done
  else if islandNames.contains name then
    reopenFormatting
    let _ ← openTag tag
    addMarker
    noFrameset
    return .done
  else if name == "table" then
    unless b.legacy do closeOpenParagraph
    let _ ← openTag tag
    noFrameset
    goTo .inTable
    return .done
  else if ["area", "br", "embed", "img", "keygen", "wbr"].contains name then
    insertInline tag
    noFrameset
    return .done
  else if name == "input" then
    insertInline tag
    let isHidden := (tag.attributes.lookup "type").any (sameName · "hidden")
    unless isHidden do noFrameset
    return .done
  else if ["param", "source", "track"].contains name then
    insertVoid tag
    return .done
  else if name == "hr" then
    closeOpenParagraph
    insertVoid tag
    noFrameset
    return .done
  else if name == "image" then
    insertInline { tag with name := "img" }
    noFrameset
    return .done
  else if name == "textarea" then
    openText tag (.escapable name)
    noFrameset
    modify fun b => { b with skipLineFeed := true }
    return .done
  else if name == "xmp" then
    closeOpenParagraph
    reopenFormatting
    noFrameset
    openText tag (.raw name)
    return .done
  else if name == "iframe" then
    noFrameset
    openText tag (.raw name)
    return .done
  else if name == "noembed" || name == "noscript" then
    openText tag (.raw name)
    return .done
  else if name == "select" then
    openSelect tag
    return .done
  else if name == "option" || name == "optgroup" then
    openOption tag
    return .done
  else if name == "rb" || name == "rtc" then
    if b.inScope defaultScope ["ruby"] then impliedEnds []
    let _ ← openTag tag
    return .done
  else if name == "rp" || name == "rt" then
    if b.inScope defaultScope ["ruby"] then impliedEnds ["rtc"]
    let _ ← openTag tag
    return .done
  else if name == "math" then
    insertForeign .mathMl tag
    return .done
  else if name == "svg" then
    insertForeign .svg tag
    return .done
  else if misplacedNames.contains name then return .done
  else
    reopenFormatting
    let _ ← openTag tag
    return .done

/-- Closes an element that is in scope, with what may end in it. -/
def closeInScope (scope : Scope) (except : List String) (wanted : List String) : Build Unit := do
  if (← get).inScope scope wanted then
    impliedEnds except
    popThrough wanted

/-- The end tag of a form. The form that is open as such goes, wherever it stands. -/
def closeForm : Build Unit := do
  let b ← get
  if b.isOpen "template" then closeInScope defaultScope [] ["form"]
  else
    modify fun b => { b with form := none }
    match b.form with
    | some n =>
      if b.nodeInScope defaultScope n then
        impliedEnds []
        removeFromStack n
    | none => return

/-- An end tag in the body. -/
def bodyEnd (name : String) : Build Next := do
  let b ← get
  if name == "template" then return .by .inHead
  else if name == "body" || name == "html" then
    if b.inScope defaultScope ["body"] then
      goTo .afterBody
      return if name == "html" then .again else .done
    else return .done
  else if blockNames.contains name || ["button", "listing", "pre"].contains name then
    closeInScope defaultScope [] [name]
    return .done
  else if name == "form" then
    closeForm
    return .done
  else if name == "p" then
    unless b.inScope buttonScope ["p"] do
      let _ ← openNamed "p"
    closeParagraph
    return .done
  else if name == "li" then
    closeInScope listScope ["li"] ["li"]
    return .done
  else if name == "dd" || name == "dt" then
    closeInScope defaultScope [name] [name]
    return .done
  else if headingNames.contains name then
    closeInScope defaultScope [] headingNames
    return .done
  else if name == "a" || name == "nobr" || formattingNames.contains name then
    closeFormatting name
    return .done
  else if islandNames.contains name then
    if b.inScope defaultScope [name] then
      impliedEnds []
      popThrough [name]
      clearToMarker
    return .done
  else if name == "br" then bodyStart ⟨"br", [], false⟩
  else
    closePlain name
    return .done

/-- In the body. -/
def inBodyRules (e : Event) : Build Next := do
  match e with
  | .comment data =>
    insertComment data
    return .done
  | .char c =>
    unless c = '\x00' do
      reopenFormatting
      insertChar c
      unless isBlankChar c do noFrameset
    return .done
  | .startTag tag => bodyStart tag
  | .endTag name => bodyEnd name
  | .endOfPage => return if (← get).templateModes.isEmpty then .done else .by .inTemplate

/-- In text that only an end tag ends. -/
def textRules (e : Event) : Build Next := do
  let leave : Build Unit := do
    pop
    modify fun b => { b with mode := b.returnMode }
  match e with
  | .char c =>
    insertChar c
    return .done
  | .endTag _ =>
    leave
    return .done
  | _ =>
    leave
    return .again

end SelectorFinder.Html.Build
