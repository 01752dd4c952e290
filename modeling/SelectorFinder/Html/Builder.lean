import SelectorFinder.Html.Draft

/-!
# Building a Page

The state in which a page is built from its tokens: the draft, the stack of open elements,
the list of formatting elements to be opened again, and what the rules remember between
tokens. The operations here are those that the rules of all modes share: looking for an
element that is in scope, inserting where the markup says or, out of a table, before it, and
closing elements.
-/

namespace SelectorFinder.Html

/-- The rules that apply, by where in a page the next token stands. -/
inductive Mode where
  | initial
  | beforeHtml
  | beforeHead
  | inHead
  | afterHead
  | inBody
  | text
  | inTable
  | inTableText
  | inCaption
  | inColumnGroup
  | inTableBody
  | inRow
  | inCell
  | inSelect
  | inSelectInTable
  | inTemplate
  | afterBody
  | inFrameset
  | afterFrameset
  | afterAfterBody
  | afterAfterFrameset
  deriving DecidableEq, Repr

/-- What the rules are asked about: a tag, a comment, text one character at a time, or the
end. -/
inductive Event where
  | startTag (tag : Tag)
  | endTag (name : String)
  | comment (data : String)
  | char (c : Char)
  | endOfPage
  deriving DecidableEq, Repr

/-- What is to be done after the rules of a mode have looked at an event. -/
inductive Next where
  /-- The event is dealt with. -/
  | done
  /-- The event is looked at again, in the mode that is now on. -/
  | again
  /-- The rules of another mode decide, without a change of the mode. -/
  | by (mode : Mode)
  /-- The rules of the body decide, and what belongs in no table is put before it. -/
  | fostered
  deriving DecidableEq, Repr

/-- An entry of the list of formatting elements: an element with the tag that it was made of,
or a marker that hides the entries before it. -/
inductive Formatting where
  | marker
  | element (node : Nat) (tag : Tag)
  deriving DecidableEq, Repr

/-- The state in which a page is built. The stack of open elements and the list of
formatting elements have their latest entry first. -/
structure Builder where
  draft : Draft
  stack : List Nat
  formatting : List Formatting
  mode : Mode
  /-- The mode to return to behind raw text and behind the text of a table. -/
  returnMode : Mode
  templateModes : List Mode
  head : Option Nat
  form : Option Nat
  /-- Whether a frameset may still take the place of the body. -/
  framesetOk : Bool
  /-- Whether the page is a legacy page, in which a table may stand in a paragraph. -/
  legacy : Bool
  /-- Whether what belongs in no table is put before it. -/
  fostering : Bool
  /-- The text of a table that is not placed yet, latest first. -/
  tableText : List Char
  /-- Whether a line feed that comes next is dropped. -/
  skipLineFeed : Bool
  textMode : TextMode
  deriving Repr

namespace Builder

/-- The state before the first token. -/
def start : Builder where
  draft := .empty
  stack := []
  formatting := []
  mode := .initial
  returnMode := .initial
  templateModes := []
  head := none
  form := none
  framesetOk := true
  legacy := false
  fostering := false
  tableText := []
  skipLineFeed := false
  textMode := .data

/-! ### The stack of open elements -/

/-- The name of a node, if it is an element. -/
def name? (b : Builder) (n : Nat) : Option ElementName :=
  b.draft.name? n

/-- Whether a node is an HTML element with one of the names. -/
def isOne (b : Builder) (names : List String) (n : Nat) : Bool :=
  match b.name? n with
  | some ⟨.html, name⟩ => names.contains name
  | _ => false

/-- The innermost open element. -/
def current? (b : Builder) : Option Nat :=
  b.stack.head?

/-- Whether the innermost open element is an HTML element with one of the names. -/
def currentIsOne (b : Builder) (names : List String) : Bool :=
  b.current?.any (b.isOne names)

/-- Whether an HTML element with the name is open. -/
def isOpen (b : Builder) (name : String) : Bool :=
  b.stack.any (b.isOne [name])

/-- The outermost open element. -/
def outermost? (b : Builder) : Option Nat :=
  b.stack.getLast?

/-- The element just inside the outermost one, if it is the body. -/
def bodyElement? (b : Builder) : Option Nat :=
  b.stack.reverse[1]?.filter (b.isOne ["body"])

/-- Where a search for an open element ends. -/
abbrev Scope := Builder → Nat → Bool

/-- The HTML elements that no search goes beyond. -/
def scopeNames : List String :=
  ["applet", "caption", "html", "table", "td", "th", "marquee", "object", "template"]

/-- Elements of other vocabularies in which text stands. -/
def isTextPoint : ElementName → Bool
  | ⟨.mathMl, name⟩ => ["mi", "mo", "mn", "ms", "mtext"].contains name
  | _ => false

/-- Elements of other vocabularies in which HTML stands. -/
def isHtmlPoint : ElementName → Bool
  | ⟨.svg, name⟩ => ["foreignObject", "desc", "title"].contains name
  | _ => false

/-- The scope that a search has if nothing else is said. -/
def defaultScope : Scope := fun b n =>
  b.isOne scopeNames n || (b.name? n).any fun name => isTextPoint name || isHtmlPoint name

/-- The scope in which a list item is looked for. -/
def listScope : Scope := fun b n =>
  defaultScope b n || b.isOne ["ol", "ul"] n

/-- The scope in which a paragraph or a button is looked for. -/
def buttonScope : Scope := fun b n =>
  defaultScope b n || b.isOne ["button"] n

/-- The scope in which the parts of a table are looked for. -/
def tableScope : Scope := fun b n =>
  b.isOne ["html", "table", "template"] n

/-- The scope in which a select is looked for from inside of it. -/
def selectScope : Scope := fun b n =>
  !b.isOne ["optgroup", "option"] n

/-- Whether a search upward finds a node before it comes to the end of the scope. -/
def finds (b : Builder) (scope : Scope) (wanted : Nat → Bool) : List Nat → Bool
  | [] => false
  | n :: ns => wanted n || (!scope b n && b.finds scope wanted ns)

/-- Whether an HTML element with one of the names is in scope. -/
def inScope (b : Builder) (scope : Scope) (names : List String) : Bool :=
  b.finds scope (b.isOne names) b.stack

/-- Whether a node is in scope. -/
def nodeInScope (b : Builder) (scope : Scope) (n : Nat) : Bool :=
  b.finds scope (· == n) b.stack

end Builder

/-- A computation on the state in which a page is built. -/
abbrev Build := StateM Builder

namespace Build

open Builder

/-! ### Closing elements -/

/-- Closes the innermost element. -/
def pop : Build Unit :=
  modify fun b => { b with stack := b.stack.tail }

/-- Closes elements up to, and not including, the first that is to stay. -/
def popTo (stays : Builder → Nat → Bool) : Build Unit :=
  modify fun b => { b with stack := b.stack.dropWhile (!stays b ·) }

/-- Closes elements up to and including the first HTML element with one of the names. -/
def popThrough (names : List String) : Build Unit := do
  popTo (·.isOne names)
  pop

/-- Takes a node out of the stack, wherever it is. -/
def removeFromStack (n : Nat) : Build Unit :=
  modify fun b => { b with stack := b.stack.erase n }

/-- The elements that end where another begins or ends. -/
def impliedEndNames : List String :=
  ["dd", "dt", "li", "optgroup", "option", "p", "rb", "rp", "rt", "rtc"]

/-- Closes the elements that may end without a tag, except those with the given names. -/
def impliedEnds (except : List String) : Build Unit :=
  popTo fun b n => !b.isOne impliedEndNames n || b.isOne except n

/-- Closes also those elements of a table and of a select that may end without a tag. -/
def allImpliedEnds : Build Unit :=
  popTo fun b n => !b.isOne (impliedEndNames ++
    ["caption", "colgroup", "tbody", "td", "tfoot", "th", "thead", "tr"]) n

/-- Closes a paragraph, with what may end in it. -/
def closeParagraph : Build Unit := do
  impliedEnds ["p"]
  popThrough ["p"]

/-- Closes a paragraph, if one is open where a paragraph cannot go on. -/
def closeOpenParagraph : Build Unit := do
  if (← get).inScope buttonScope ["p"] then closeParagraph

/-! ### Inserting -/

/-- The elements out of which what belongs in no table is put before it. -/
def fosterNames : List String :=
  ["table", "tbody", "tfoot", "thead", "tr"]

/-- Where a table's foster child goes: into the template that is further in than any table,
else before the innermost table, or, if that is nowhere, into the element it was opened in. -/
def fosterPlace (b : Builder) : List Nat → Place
  | [] => .lastIn ((b.outermost?).getD Draft.page)
  | n :: outer =>
    if b.isOne ["template"] n then .lastIn ((b.draft.contents? n).getD n)
    else if b.isOne ["table"] n then
      match b.draft.parent? n, outer with
      | none, parent :: _ => .lastIn parent
      | _, _ => .before n
    else fosterPlace b outer

/-- The place for a new node below `target`. -/
def placeIn (b : Builder) (target : Nat) : Place :=
  if b.fostering && b.isOne fosterNames target then fosterPlace b b.stack
  else .lastIn ((b.draft.contents? target).getD target)

/-- The place for a new node. -/
def place (b : Builder) : Place :=
  placeIn b (b.current?.getD Draft.page)

/-- Puts a new node into the page. -/
def insert (kind : DraftKind) : Build Nat := do
  let b ← get
  let (draft, n) := b.draft.create kind
  set { b with draft := draft.put (place b) n }
  return n

/-- A new element that is nowhere yet. -/
def createElement (name : ElementName) (attributes : List (String × String)) : Build Nat := do
  let b ← get
  if name = ⟨.html, "template"⟩ then
    let (draft, contents) := b.draft.create .contents
    let (draft, n) := draft.create (.element name attributes (some contents))
    set { b with draft }
    return n
  else
    let (draft, n) := b.draft.create (.element name attributes none)
    set { b with draft }
    return n

/-- Opens a new element. -/
def openElement (name : ElementName) (attributes : List (String × String)) : Build Nat := do
  let n ← createElement name attributes
  modify fun b => { b with draft := b.draft.put (place b) n, stack := n :: b.stack }
  return n

/-- Opens the HTML element of a tag. -/
def openTag (tag : Tag) : Build Nat :=
  openElement ⟨.html, tag.name⟩ tag.attributes

/-- Opens an HTML element without attributes. -/
def openNamed (name : String) : Build Nat :=
  openElement ⟨.html, name⟩ []

/-- Inserts the HTML element of a tag and does not leave it open. -/
def insertVoid (tag : Tag) : Build Unit := do
  let _ ← openTag tag
  pop

/-- Inserts a comment where the page is. -/
def insertComment (data : String) : Build Unit := do
  let _ ← insert (.comment data)

/-- Puts a comment at the end of a node. -/
def commentIn (parent : Nat) (data : String) : Build Unit :=
  modify fun b =>
    let (draft, n) := b.draft.create (.comment data)
    { b with draft := draft.put (.lastIn parent) n }

/-- Inserts a character. -/
def insertChar (c : Char) : Build Unit :=
  modify fun b => { b with draft := b.draft.putChar (place b) c }

/-! ### Formatting elements -/

/-- The entries behind the last marker, latest first. -/
def sinceMarker (entries : List Formatting) : List Formatting :=
  entries.takeWhile (· != .marker)

/-- Drops the entries up to and including the last marker. -/
def clearToMarker : Build Unit :=
  modify fun b => { b with formatting := (b.formatting.dropWhile (· != .marker)).tail }

/-- Adds a marker. -/
def addMarker : Build Unit :=
  modify fun b => { b with formatting := .marker :: b.formatting }

/-- Whether two tags make equal elements: the same attributes in any order. -/
def sameTag (s t : Tag) : Bool :=
  s.name == t.name && s.attributes.length == t.attributes.length &&
    s.attributes.all t.attributes.contains

/-- The entry of a node. -/
def isEntryOf (n : Nat) : Formatting → Bool
  | .marker => false
  | .element m _ => m == n

/-- How many equal formatting elements there may be in a row. -/
def equalLimit : Nat := 3

/-- Adds an element to the list; of the equal ones behind the last marker the earliest goes,
if there are as many as may be. -/
def addFormatting (n : Nat) (tag : Tag) : Build Unit :=
  modify fun b =>
    let equal := (sinceMarker b.formatting).filter fun
      | .element _ t => sameTag t tag
      | .marker => false
    let kept := match equal.getLast? with
      | some earliest =>
        if equal.length ≥ equalLimit then b.formatting.erase earliest else b.formatting
      | none => b.formatting
    { b with formatting := .element n tag :: kept }

/-- Opens the elements again that are in the list and were closed with their surroundings.
The list is looked at from its latest entry back to a marker or to an element that is still
open, and from there on forward. -/
def reopenFormatting : Build Unit := do
  let b ← get
  let isClosed : Formatting → Bool
    | .marker => false
    | .element n _ => !b.stack.contains n
  let closed := b.formatting.takeWhile isClosed
  let kept := b.formatting.dropWhile isClosed
  let reopened ← closed.reverse.foldlM (fun done entry => do
    match entry with
    | .element _ tag => return .element (← openTag tag) tag :: done
    | .marker => return done) kept
  modify fun b => { b with formatting := reopened }

/-! ### Modes -/

/-- Switches to a mode. -/
def goTo (mode : Mode) : Build Unit :=
  modify fun b => { b with mode }

/-- From now on no frameset takes the place of the body. -/
def noFrameset : Build Unit :=
  modify fun b => { b with framesetOk := false }

/-- Opens the element of a tag whose text only its end tag ends. -/
def openText (tag : Tag) (textMode : TextMode) : Build Unit := do
  let _ ← openTag tag
  modify fun b => { b with returnMode := b.mode, mode := .text, textMode }

/-- The mode that fits a select with the given elements around it, innermost first. -/
def selectMode (b : Builder) (around : List Nat) : Mode :=
  match around.find? (b.isOne ["table", "template"]) with
  | some n => if b.isOne ["table"] n then .inSelectInTable else .inSelect
  | none => .inSelect

/-- The mode that fits a stack of open elements. -/
def modeFor (b : Builder) : List Nat → Mode
  | [] => .inBody
  | n :: outer =>
    let isLast := outer.isEmpty
    if b.isOne ["select"] n then selectMode b outer
    else if !isLast && b.isOne ["td", "th"] n then .inCell
    else if b.isOne ["tr"] n then .inRow
    else if b.isOne ["tbody", "thead", "tfoot"] n then .inTableBody
    else if b.isOne ["caption"] n then .inCaption
    else if b.isOne ["colgroup"] n then .inColumnGroup
    else if b.isOne ["table"] n then .inTable
    else if b.isOne ["template"] n then b.templateModes.headD .inBody
    else if !isLast && b.isOne ["head"] n then .inHead
    else if b.isOne ["body"] n then .inBody
    else if b.isOne ["frameset"] n then .inFrameset
    else if b.isOne ["html"] n then if b.head.isNone then .beforeHead else .afterHead
    else modeFor b outer

/-- Switches to the mode that fits the open elements. -/
def resetMode : Build Unit :=
  modify fun b => { b with mode := modeFor b b.stack }

end Build

end SelectorFinder.Html
