import SelectorFinder.Html.Rules.Frameset
import SelectorFinder.Html.Rules.Select
import SelectorFinder.Html.Rules.Table

/-!
# Reading a Page

A page is read token by token, each as the state of the builder says, and each token is
handed to the rules until they are done with it. Every text is a page: what is missing is
opened, and what is misplaced is moved or dropped.

The text comes in pieces. Each may start with the mark that tells the order of bytes, which
is dropped, and so is such a mark right behind a script.
-/

namespace SelectorFinder.Html

namespace Build

open Builder

/-- The rules of a mode. -/
def rules : Mode → Event → Build Next
  | .initial => initialRules
  | .beforeHtml => beforeHtmlRules
  | .beforeHead => beforeHeadRules
  | .inHead => inHeadRules
  | .afterHead => afterHeadRules
  | .inBody => inBodyRules
  | .text => textRules
  | .inTable => inTableRules
  | .inTableText => inTableTextRules
  | .inCaption => inCaptionRules
  | .inColumnGroup => inColumnGroupRules
  | .inTableBody => inTableBodyRules
  | .inRow => inRowRules
  | .inCell => inCellRules
  | .inSelect => inSelectRules
  | .inSelectInTable => inSelectInTableRules
  | .inTemplate => inTemplateRules
  | .afterBody => afterBodyRules
  | .inFrameset => inFramesetRules
  | .afterFrameset => afterFramesetRules
  | .afterAfterBody => afterAfterBodyRules
  | .afterAfterFrameset => afterAfterFramesetRules

/-- Lets the rules of a mode decide, and those that they refer to; the answer tells whether
the event is to be looked at again. The rules of a mode refer to those of the body, of a
table, of a select or of the head, and these to no other but a template's, so a few
references are enough. -/
def follow : Nat → Next → Event → Build Bool
  | 0, _, _ => return false
  | budget + 1, next, e => do
    match next with
    | .done => return false
    | .again => return true
    | .by mode => follow budget (← rules mode e) e
    | .fostered =>
      modify fun b => { b with fostering := true }
      let again ← follow budget (← rules .inBody e) e
      modify fun b => { b with fostering := false }
      return again

/-- How many rules may refer to each other in a row. -/
def referenceLimit : Nat := 8

/-- Looks at an event until it is dealt with. Each time it is looked at again an element was
closed, or the page has come a step further on its way to the body. -/
def handle : Nat → Event → Build Unit
  | 0, _ => return
  | budget + 1, e => do
    let b ← get
    let next ← if isForeign b e then foreignRules e else rules b.mode e
    if ← follow referenceLimit next e then handle budget e

/-- How often an event is looked at, at most, given how many elements are open. -/
def lookLimit (openElements : Nat) : Nat :=
  4 * openElements + 16

/-- Deals with an event. A line feed right behind certain start tags is dropped. -/
def take (e : Event) : Build Unit := do
  let b ← get
  set { b with skipLineFeed := false }
  unless b.skipLineFeed && e = .char '\n' do
    handle (lookLimit b.stack.length) e

/-- Makes a line feed that comes next count. -/
def keepLineFeed (b : Builder) : Builder :=
  { b with skipLineFeed := false }

/-- Deals with a token. A tag ends the text that only it could end, and a document type is
heeded at the start alone. -/
def takeToken (t : Token) : Build Unit := do
  match t with
  | .doctype d =>
    modify keepLineFeed
    if (← get).mode = .initial then takeDoctype d
  | .comment data => take (.comment data)
  | .text run => for c in run do take (.char c)
  | .startTag tag =>
    modify fun b => { b with textMode := .data }
    take (.startTag tag)
  | .endTag name =>
    modify fun b => { b with textMode := .data }
    take (.endTag name)

/-- Whether a section of character data may stand here, which is so in a drawing or a
formula. -/
def sectionsAllowed (b : Builder) : Bool :=
  match b.current?.bind b.name? with
  | some name => name.vocabulary != .html
  | none => false

/-- The text without a mark at its start that tells the order of bytes. -/
def withoutOrderMark : List Char → List Char
  | '\uFEFF' :: cs => cs
  | cs => cs

/-- What is left behind an order mark is not longer. -/
theorem length_withoutOrderMark_le (cs : List Char) :
    (withoutOrderMark cs).length ≤ cs.length := by
  unfold withoutOrderMark
  split
  · exact Nat.le_succ _
  · exact Nat.le_refl _

/-- What is read behind a token. A mark right behind the end of a script is dropped, except
one that its piece still starts with; `marks` tells how many characters are left at those. -/
def behind (marks : List Nat) (b : Builder) (t : Token) (rest : List Char) : List Char :=
  if b.mode = .text ∧ t = .endTag "script" ∧ rest.length ∉ marks then withoutOrderMark rest
  else rest

/-- What follows a token is not longer for what the builder does with it. -/
theorem length_behind_le (marks : List Nat) (b : Builder) (t : Token) (rest : List Char) :
    (behind marks b t rest).length ≤ rest.length := by
  unfold behind
  split
  · exact length_withoutOrderMark_le rest
  · exact Nat.le_refl _

/-- The state before a text. A line feed is dropped as it stands, and not as a reference
without its semicolon. -/
def facing (b : Builder) (cs : List Char) : Builder :=
  if Reference.startsBare cs then keepLineFeed b else b

/-- Reads a whole text. Markup that is no token still comes between a tag and a line feed. -/
def readAll (marks : List Nat) (b : Builder) : List Char → Builder
  | [] => ((take .endOfPage).run b).2
  | c :: cs =>
    let b := facing b (c :: cs)
    let r := read b.textMode (sectionsAllowed b) c cs
    match r.1 with
    | some t => readAll marks ((takeToken t).run b).2 (behind marks b t r.2)
    | none => readAll marks (keepLineFeed b) r.2
termination_by cs => cs.length
decreasing_by
  · exact Nat.lt_succ_of_le (Nat.le_trans (length_behind_le _ _ _ _) (length_read_le _ _ _ _))
  · exact Nat.lt_succ_of_le (length_read_le _ _ _ _)

end Build

/-- Line ends as line feeds: a carriage return counts as one, alone or before a line feed. -/
def lineFeeds : List Char → List Char
  | [] => []
  | '\r' :: '\n' :: cs => '\n' :: lineFeeds cs
  | c :: cs => (if c = '\r' then '\n' else c) :: lineFeeds cs

/-- How many characters are left where a piece still starts with a mark, the line ends being
line feeds. -/
def marksLeft : List (List Char) → List Nat
  | [] => []
  | piece :: pieces =>
    if piece.head? = some '\uFEFF' then
      (lineFeeds (piece :: pieces).flatten).length :: marksLeft pieces
    else marksLeft pieces

/-- The content of the page whose text comes in the given pieces. -/
def pageOf (pieces : List (List Char)) : List Content :=
  let pieces := pieces.map Build.withoutOrderMark
  (Build.readAll (marksLeft pieces) .start (lineFeeds pieces.flatten)).draft.finish

end SelectorFinder.Html
