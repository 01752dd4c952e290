import SelectorFinder.Dom.Document

/-!
# Walks Through a Document

Views of a document that follow its links: the elements among the children, the closest
element before a node, the text and the elements below it, and the elements that stand for
the page itself.

A walk down or along the links carries a budget, and the walks offered here take the size of
the document for it. In a document in which no node lies below itself every chain of links
is shorter than that, so there the budget never cuts a walk short.
-/

namespace SelectorFinder.Dom.Document

/-! ### Elements around a node -/

/-- The children that are elements, in order. -/
def elementChildren (d : Document) (n : NodeId) : List NodeId :=
  (d.children n).filter d.isElement

/-- The parent, if it is an element. -/
def parentElement? (d : Document) (n : NodeId) : Option NodeId :=
  (d.parent? n).filter d.isElement

/-- The first element on the chain of previous siblings that starts at `n` itself. -/
def elementBackFrom (d : Document) : Nat → Option NodeId → Option NodeId
  | 0, _ => none
  | _ + 1, none => none
  | budget + 1, some n => if d.isElement n then some n else d.elementBackFrom budget (d.previous? n)

/-- The closest sibling before `n` that is an element. -/
def previousElement? (d : Document) (n : NodeId) : Option NodeId :=
  d.elementBackFrom d.size (d.previous? n)

/-! ### What lies below a node -/

/-- The text that a node adds to its parent's: a text its data, an element what its children
add, anything else nothing. -/
def textOf (d : Document) : Nat → NodeId → String
  | 0, _ => ""
  | budget + 1, n =>
    match d.kind? n with
    | some (.text data) => data
    | some (.element _) => String.join ((d.children n).map (d.textOf budget))
    | _ => ""

/-- The data of all texts below a node, in order; for a text its own data. Only elements are
looked into, and the node itself whatever it is. -/
def textContent (d : Document) (n : NodeId) : String :=
  match d.text? n with
  | some data => data
  | none => String.join ((d.children n).map (d.textOf d.size))

/-- The elements below a node, each followed by those below it, down to a number of levels. -/
def elementsBelow (d : Document) : Nat → NodeId → List NodeId
  | 0, _ => []
  | budget + 1, n =>
    (d.elementChildren n).flatMap fun child => child :: d.elementsBelow budget child

/-- The elements below a node in document order, reached through elements only. -/
def descendantElements (d : Document) (n : NodeId) : List NodeId :=
  d.elementsBelow d.size n

/-- The first element in document order whose id is the given one. -/
def findById? (d : Document) (id : String) : Option NodeId :=
  (d.descendantElements root).find? fun n =>
    match d.element? n with
    | some e => e.id? == some id
    | none => false

/-! ### The elements of the page itself -/

/-- The first element child of the document node. -/
def documentElement? (d : Document) : Option NodeId :=
  (d.elementChildren root).head?

/-- The first child of the document element that is a `body` or a `frameset`. -/
def body? (d : Document) : Option NodeId := do
  let top ← d.documentElement?
  (d.elementChildren top).find? fun n =>
    match d.element? n with
    | some e => e.hasTag "body" || e.hasTag "frameset"
    | none => false

/-! ### Paths -/

/-- The element that a path of indices among element children leads to from a node. -/
def follow (d : Document) : NodeId → List Nat → Option NodeId
  | n, [] => some n
  | n, i :: path => do d.follow (← (d.elementChildren n)[i]?) path

/-- The element that a path leads to from the document element. -/
def elementAt? (d : Document) (path : List Nat) : Option NodeId := do
  d.follow (← d.documentElement?) path

/-- The path from `top` down to `n`, followed by a given one. -/
def pathDown (d : Document) (top : NodeId) : Nat → NodeId → List Nat → Option (List Nat)
  | 0, _, _ => none
  | budget + 1, n, below =>
    if n = top then some below
    else do
      let parent ← d.parentElement? n
      let index ← (d.elementChildren parent).idxOf? n
      d.pathDown top budget parent (index :: below)

/-- The path that leads to a node from the document element, if there is one. -/
def path? (d : Document) (n : NodeId) : Option (List Nat) := do
  d.pathDown (← d.documentElement?) d.size n []

end SelectorFinder.Dom.Document
