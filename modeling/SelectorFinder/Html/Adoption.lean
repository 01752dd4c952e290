import SelectorFinder.Html.Builder

/-!
# Misnested Formatting

What an end tag closes when elements overlap. A plain end tag closes the innermost element
of its name, unless a special element lies further in. The end tag of a formatting element
may leave a block in it open: then the block moves out, the formatting is made anew inside
of it, and what lies between is made anew around it.
-/

namespace SelectorFinder.Html.Build

open Builder

/-- The elements that a plain end tag does not close over. -/
def specialNames : List String :=
  ["address", "applet", "area", "article", "aside", "base", "basefont", "bgsound", "blockquote",
   "body", "br", "button", "caption", "center", "col", "colgroup", "dd", "details", "dir", "div",
   "dl", "dt", "embed", "fieldset", "figcaption", "figure", "footer", "form", "frame", "frameset",
   "h1", "h2", "h3", "h4", "h5", "h6", "head", "header", "hgroup", "hr", "html", "iframe", "img",
   "input", "isindex", "keygen", "li", "link", "listing", "main", "marquee", "menu", "meta",
   "nav", "noembed", "noframes", "noscript", "object", "ol", "p", "param", "plaintext", "pre",
   "script", "section", "select", "source", "style", "summary", "table", "tbody", "td",
   "template", "textarea", "tfoot", "th", "thead", "title", "tr", "track", "ul", "wbr", "xmp"]

/-- Whether a node is a special element. -/
def isSpecial (b : Builder) (n : Nat) : Bool :=
  b.isOne specialNames n

/-- The innermost open element of a name, if no special element lies further in. -/
def closable? (b : Builder) (name : String) : List Nat → Option Nat
  | [] => none
  | n :: outer =>
    if b.isOne [name] n then some n
    else if isSpecial b n then none
    else closable? b name outer

/-- The end tag of an element for which there is no other rule. -/
def closePlain (name : String) : Build Unit := do
  let b ← get
  match closable? b name b.stack with
  | some n =>
    impliedEnds [name]
    popTo fun _ m => m == n
    pop
  | none => return

/-- Drops the entry of a node from the list of formatting elements. -/
def removeFormatting (n : Nat) : Build Unit :=
  modify fun b => { b with formatting := b.formatting.filter (!isEntryOf n ·) }

/-- The tag of a node's entry in the list of formatting elements. -/
def formattingTag? (b : Builder) (n : Nat) : Option Tag :=
  b.formatting.findSome? fun
    | .element m tag => if m = n then some tag else none
    | .marker => none

/-- Puts a node elsewhere in the page. -/
def move (n target : Nat) : Build Unit :=
  modify fun b =>
    let detached := { b with draft := b.draft.detach n }
    { b with draft := detached.draft.put (placeIn detached target) n }

/-- How many elements between a block and the formatting around it are made anew. -/
def renewalLimit : Nat := 3

/-- What the elements between a block and the formatting around it have come to: how many
there were, the outermost that holds the block so far, and the first one made anew. -/
structure Chain where
  count : Nat
  last : Nat
  mark : Option Nat

/-- Takes one more element between a block and the formatting around it: it is made anew
around what is held so far if it is formatting itself, and else it is closed. -/
def extendChain (block : Nat) (chain : Chain) (n : Nat) : Build Chain := do
  let count := chain.count + 1
  if count > renewalLimit then removeFormatting n
  match formattingTag? (← get) n with
  | none =>
    removeFromStack n
    return { chain with count }
  | some tag =>
    let m ← createElement ⟨.html, tag.name⟩ tag.attributes
    modify fun b => { b with
      stack := b.stack.replace n m
      formatting := b.formatting.map fun entry =>
        if isEntryOf n entry then .element m tag else entry
      draft := (b.draft.detach chain.last).put (.lastIn m) chain.last }
    return ⟨count, m, if chain.last = block then some m else chain.mark⟩

/-- Puts the entry of an element that was made anew where the old entry was, or just behind
the entry of `mark`. -/
def renewEntry (old : Nat) (new : Formatting) (mark : Option Nat) (entries : List Formatting) :
    List Formatting :=
  match mark with
  | none => entries.map fun entry => if isEntryOf old entry then new else entry
  | some m =>
    (entries.flatMap fun entry => if isEntryOf m entry then [new, entry] else [entry]).filter
      (!isEntryOf old ·)

/-- Moves a block out of the formatting around it. `outer` is the element that the
formatting was opened in, and `between` are the open elements between, innermost first. -/
def moveOut (formatting : Nat) (tag : Tag) (block outer : Nat) (between : List Nat) :
    Build Unit := do
  let chain ← between.foldlM (extendChain block) ⟨0, block, none⟩
  move chain.last outer
  let m ← createElement ⟨.html, tag.name⟩ tag.attributes
  modify fun b => { b with
    draft := (b.draft.moveChildren block m).put (.lastIn block) m
    formatting := renewEntry formatting (.element m tag) chain.mark b.formatting
    stack := (b.stack.erase formatting).flatMap fun n => if n = block then [m, n] else [n] }

/-- One round of closing a formatting element; the answer tells whether there may be more to
do. -/
def closeFormattingOnce (name : String) : Build Bool := do
  let b ← get
  let entry := (sinceMarker b.formatting).findSome? fun
    | .element n tag => if tag.name = name then some (n, tag) else none
    | .marker => none
  match entry with
  | none =>
    closePlain name
    return false
  | some (n, tag) =>
    if !b.stack.contains n then
      removeFormatting n
      return false
    else if !b.nodeInScope defaultScope n then return false
    else
      let inner := b.stack.takeWhile (· ≠ n)
      let outer := (b.stack.dropWhile (· ≠ n)).tail
      match (inner.filter (isSpecial b)).getLast?, outer with
      | some block, ancestor :: _ =>
        moveOut n tag block ancestor (inner.dropWhile (· ≠ block)).tail
        return true
      | _, _ =>
        popTo fun _ m => m == n
        pop
        removeFormatting n
        return false

/-- Closes a formatting element in at most so many rounds. -/
def closeFormattingIn (name : String) : Nat → Build Unit
  | 0 => return
  | rounds + 1 => do
    if ← closeFormattingOnce name then closeFormattingIn name rounds

/-- The end tag of a formatting element. -/
def closeFormatting (name : String) : Build Unit := do
  let b ← get
  if b.currentIsOne [name] && !b.current?.any (fun n => b.formatting.any (isEntryOf n)) then pop
  else closeFormattingIn name 8

end SelectorFinder.Html.Build
