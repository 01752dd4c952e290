import SelectorFinder.Dom.Element

/-!
# Documents

A document is a growing list of nodes, named by their place in it. Node 0 is the document
itself; elements, texts and comments are made unattached and then appended to a parent.
Appending records the parent and the sibling before on the child, and the child at the end
of the parent's list. It never takes a node out of another list, so a node appended twice
stays listed under its first parent, while its own links tell of the last time.

Every reader is total: a number that names no node has no kind, no links and no children.
-/

namespace SelectorFinder.Dom

/-- The place of a node in its document. -/
abbrev NodeId := Nat

/-- What a node is. -/
inductive NodeKind where
  | document
  | element (element : Element)
  | text (data : String)
  | comment (data : String)
  deriving DecidableEq, Repr, Inhabited

/-- A node and its links. -/
structure Node where
  kind : NodeKind
  parent : Option NodeId
  previous : Option NodeId
  children : List NodeId
  deriving DecidableEq, Repr, Inhabited

/-- A node that is not attached anywhere. -/
def Node.unattached (kind : NodeKind) : Node :=
  ⟨kind, none, none, []⟩

/-- The nodes of a page, the document node first. -/
structure Document where
  nodes : Array Node
  deriving DecidableEq, Repr

namespace Document

/-- The document node. -/
def root : NodeId := 0

/-- A document without content. -/
def empty : Document :=
  ⟨#[Node.unattached .document]⟩

/-- The document with its document node only. -/
instance : Inhabited Document := ⟨empty⟩

/-- How many nodes there are, the document node included. -/
def size (d : Document) : Nat :=
  d.nodes.size

/-- Whether there is no node, not even the document node. -/
def isEmpty (d : Document) : Bool :=
  d.nodes.isEmpty

/-! ### Reading a node -/

/-- The node of that number. -/
def node? (d : Document) (n : NodeId) : Option Node :=
  d.nodes[n]?

/-- What the node is. -/
def kind? (d : Document) (n : NodeId) : Option NodeKind :=
  (d.node? n).map Node.kind

/-- The parent that the node was last appended to. -/
def parent? (d : Document) (n : NodeId) : Option NodeId :=
  (d.node? n).bind Node.parent

/-- The sibling, of any kind, that was last when the node was appended. -/
def previous? (d : Document) (n : NodeId) : Option NodeId :=
  (d.node? n).bind Node.previous

/-- The nodes appended to this one, in order. -/
def children (d : Document) (n : NodeId) : List NodeId :=
  match d.node? n with
  | some node => node.children
  | none => []

/-- The element that the node is. -/
def element? (d : Document) (n : NodeId) : Option Element :=
  match d.kind? n with
  | some (.element e) => some e
  | _ => none

/-- The data of the text that the node is. -/
def text? (d : Document) (n : NodeId) : Option String :=
  match d.kind? n with
  | some (.text data) => some data
  | _ => none

/-- Whether the node is an element. -/
def isElement (d : Document) (n : NodeId) : Bool :=
  (d.element? n).isSome

/-! ### Growing a document -/

/-- Adds an unattached node and gives its number. -/
def create (d : Document) (kind : NodeKind) : Document × NodeId :=
  (⟨d.nodes.push (Node.unattached kind)⟩, d.size)

/-- Makes `child` the last child of `parent`. A number that names no node changes nothing. -/
def link (d : Document) (parent child : NodeId) : Document :=
  let previous := (d.children parent).getLast?
  let listed := d.nodes.modify parent fun p => { p with children := p.children ++ [child] }
  ⟨listed.modify child fun c => { c with parent := some parent, previous := previous }⟩

/-- Makes `child` the last child of `parent`, if both are nodes of the document. -/
def append? (d : Document) (parent child : NodeId) : Option Document :=
  if parent < d.size ∧ child < d.size then some (d.link parent child) else none

/-- A new node makes the document larger by one. -/
@[simp] theorem size_create (d : Document) (kind : NodeKind) :
    (d.create kind).1.size = d.size + 1 := by
  simp [create, size]

/-- A link adds no node. -/
@[simp] theorem size_link (d : Document) (parent child : NodeId) :
    (d.link parent child).size = d.size := by
  simp [link, size]

/-- Nothing is appended if one of the two is not a node. -/
theorem append?_eq_none_iff {d : Document} {parent child : NodeId} :
    d.append? parent child = none ↔ d.size ≤ parent ∨ d.size ≤ child := by
  unfold append?
  split
  next h => simp [h]
  next h =>
    simp only [true_iff]
    simp only [Classical.not_and_iff_not_or_not, Nat.not_lt] at h
    exact h

end Document

end SelectorFinder.Dom
