import SelectorFinder.Html.Content

/-!
# Drafts

While a page is read its tree still changes: parts are put before others, taken out and put
elsewhere. A draft holds the parts by number, each with its parent and its children, and
gives the finished tree at the end. Text put next to text becomes one with it.
-/

namespace SelectorFinder.Html

/-- The vocabulary that an element belongs to. -/
inductive Vocabulary where
  | html
  | svg
  | mathMl
  deriving DecidableEq, Repr

/-- The full name of an element. -/
structure ElementName where
  vocabulary : Vocabulary
  localName : String
  deriving DecidableEq, Repr

/-- What a part of a draft is. A template element names the part that holds its contents. -/
inductive DraftKind where
  | page
  | contents
  | doctype (d : Doctype)
  | comment (data : String)
  | text (data : String)
  | element (name : ElementName) (attributes : List (String × String)) (contents : Option Nat)
  deriving Repr, Inhabited

/-- A part of a draft. -/
structure DraftNode where
  kind : DraftKind
  parent : Option Nat
  children : List Nat
  deriving Repr, Inhabited

/-- The parts of a page that is still being read; part 0 is the page. -/
structure Draft where
  nodes : Array DraftNode
  deriving Repr

/-- A place in a draft where something can be put. -/
inductive Place where
  | lastIn (parent : Nat)
  | before (sibling : Nat)
  deriving DecidableEq, Repr

namespace Draft

/-- A page without content. -/
def empty : Draft :=
  ⟨#[⟨.page, none, []⟩]⟩

/-- The part that is the page. -/
def page : Nat := 0

/-- Adds a part that is nowhere yet, and gives its number. -/
def create (d : Draft) (kind : DraftKind) : Draft × Nat :=
  (⟨d.nodes.push ⟨kind, none, []⟩⟩, d.nodes.size)

/-- The full name of the element that a part is. -/
def name? (d : Draft) (n : Nat) : Option ElementName :=
  match d.nodes[n]? with
  | some ⟨.element name _ _, _, _⟩ => some name
  | _ => none

/-- The attributes of the element that a part is. -/
def attributes (d : Draft) (n : Nat) : List (String × String) :=
  match d.nodes[n]? with
  | some ⟨.element _ attributes _, _, _⟩ => attributes
  | _ => []

/-- The part that holds the contents of a template element. -/
def contents? (d : Draft) (n : Nat) : Option Nat :=
  match d.nodes[n]? with
  | some ⟨.element _ _ contents, _, _⟩ => contents
  | _ => none

/-- The parent of a part. -/
def parent? (d : Draft) (n : Nat) : Option Nat :=
  d.nodes[n]?.bind DraftNode.parent

/-- The children of a part. -/
def children (d : Draft) (n : Nat) : List Nat :=
  match d.nodes[n]? with
  | some node => node.children
  | none => []

/-- Changes the children of a part. -/
def mapChildren (d : Draft) (n : Nat) (f : List Nat → List Nat) : Draft :=
  ⟨d.nodes.modify n fun node => { node with children := f node.children }⟩

/-- Changes the parent of a part. -/
def setParent (d : Draft) (n : Nat) (parent : Option Nat) : Draft :=
  ⟨d.nodes.modify n fun node => { node with parent := parent }⟩

/-- Takes a part out of its parent. -/
def detach (d : Draft) (n : Nat) : Draft :=
  match d.parent? n with
  | some parent => (d.mapChildren parent (·.erase n)).setParent n none
  | none => d

/-- The list with `x` put before the first `y`; at the end if there is none. -/
def insertBefore (x y : Nat) : List Nat → List Nat
  | [] => [x]
  | z :: zs => if z = y then x :: z :: zs else z :: insertBefore x y zs

/-- Puts a part that is nowhere yet at a place. -/
def put (d : Draft) (place : Place) (n : Nat) : Draft :=
  match place with
  | .lastIn parent => (d.mapChildren parent (· ++ [n])).setParent n (some parent)
  | .before sibling =>
    match d.parent? sibling with
    | some parent => (d.mapChildren parent (insertBefore n sibling)).setParent n (some parent)
    | none => d

/-- The part just before a place. -/
def justBefore? (d : Draft) : Place → Option Nat
  | .lastIn parent => (d.children parent).getLast?
  | .before sibling => do
    let siblings := d.children (← d.parent? sibling)
    (siblings.takeWhile (· ≠ sibling)).getLast?

/-- Whether a part is text. -/
def isText (d : Draft) (n : Nat) : Bool :=
  match d.nodes[n]? with
  | some ⟨.text _, _, _⟩ => true
  | _ => false

/-- Puts a character at a place: at the end of the text just before it, or as a new text. -/
def putChar (d : Draft) (place : Place) (c : Char) : Draft :=
  match (d.justBefore? place).filter d.isText with
  | some n =>
    ⟨d.nodes.modify n fun
      | ⟨.text data, parent, children⟩ => ⟨.text (data.push c), parent, children⟩
      | node => node⟩
  | none =>
    let (d, n) := d.create (.text c.toString)
    d.put place n

/-- Puts all children of one part at the end of another. -/
def moveChildren (d : Draft) (source target : Nat) : Draft :=
  (d.children source).foldl (fun d n => (d.detach n).put (.lastIn target) n) d

/-- Gives an element the attributes whose names it does not have yet. -/
def addMissingAttributes (d : Draft) (n : Nat) (more : List (String × String)) : Draft :=
  ⟨d.nodes.modify n fun
    | ⟨.element name attributes contents, parent, children⟩ =>
      let missing := more.filter fun a => attributes.all (·.1 ≠ a.1)
      ⟨.element name (attributes ++ missing) contents, parent, children⟩
    | node => node⟩

/-- The finished parts below a part, down to a number of levels. -/
def contentBelow (d : Draft) : Nat → Nat → List Content
  | 0, _ => []
  | budget + 1, n =>
    (d.children n).filterMap fun child =>
      (d.nodes[child]?).bind fun node =>
        match node.kind with
        | .doctype t => some (.doctype t)
        | .comment data => some (.comment data)
        | .text data => some (.text data)
        | .element name attributes contents =>
          some (.element name.localName attributes (d.contentBelow budget child)
            ((contents.map (d.contentBelow budget)).getD []))
        | .page | .contents => none

/-- The finished page. No chain of parts is longer than the number of parts. -/
def finish (d : Draft) : List Content :=
  d.contentBelow d.nodes.size page

end Draft

end SelectorFinder.Html
