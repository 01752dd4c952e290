import SelectorFinder.Dom.Walk
import SelectorFinder.Inspection.Summary
import SelectorFinder.Selector.Syntax

/-!
# An Element and Its Vicinity

A vicinity is an element as it stands in its document: from it one looks at the parent, the
siblings and the children, each in a vicinity of its own. The boundary is the node at which
walks upward end; it never serves as an anchor for the elements below it.
-/

namespace SelectorFinder.Inspection

open SelectorFinder.Dom SelectorFinder.Selector SelectorFinder.Text

/-- An element in its document, with the boundary in effect. -/
structure Vicinity where
  document : Document
  boundary : Option NodeId
  node : NodeId
  element : Element

namespace Vicinity

/-- The vicinity of a node, if the node is an element. -/
def at? (d : Document) (boundary : Option NodeId) (n : NodeId) : Option Vicinity :=
  (d.element? n).map fun e => ⟨d, boundary, n, e⟩

/-- The vicinity of another node of the same document. -/
def other? (v : Vicinity) (n : NodeId) : Option Vicinity :=
  at? v.document v.boundary n

/-! ### The element -/

/-- The tag in lower case. -/
def tag (v : Vicinity) : String :=
  v.element.localName

/-- The id, unless it is empty. -/
def id? (v : Vicinity) : Option String :=
  v.element.id?

/-- The class names, in order. -/
def classes (v : Vicinity) : List String :=
  v.element.classes

/-- The attributes other than `id` and `class`, in order. -/
def attributes (v : Vicinity) : List (String × String) :=
  v.element.attributes.toList.filter fun a => a.1 ≠ "id" && a.1 ≠ "class"

/-- The attributes whose names start with `data-`. -/
def dataAttributes (v : Vicinity) : List (String × String) :=
  v.attributes.filter fun a => a.1.startsWith "data-"

/-- Whether the element is the boundary. -/
def isBoundary (v : Vicinity) : Bool :=
  v.boundary == some v.node

/-- Whether the element is the document element. -/
def isDocumentElement (v : Vicinity) : Bool :=
  v.document.documentElement? == some v.node

/-! ### The neighbourhood -/

/-- The parent, if it is an element. -/
def parent? (v : Vicinity) : Option Vicinity :=
  (v.document.parentElement? v.node).bind v.other?

/-- The parent, unless it is the boundary. -/
def anchor? (v : Vicinity) : Option Vicinity :=
  v.parent?.filter (!·.isBoundary)

/-- The closest element before this one under the same parent. -/
def previous? (v : Vicinity) : Option Vicinity :=
  (v.document.previousElement? v.node).bind v.other?

/-- The children that are elements. -/
def children (v : Vicinity) : List Vicinity :=
  (v.document.elementChildren v.node).filterMap v.other?

/-- The element children of the parent, this element among them; none without a parent. -/
def siblings (v : Vicinity) : List Vicinity :=
  match v.parent? with
  | some parent => parent.children
  | none => []

/-- The place among some elements, counted from one. -/
def placeIn? (v : Vicinity) (among : List Vicinity) : Option Nat :=
  (among.findIdx? (·.node == v.node)).map (· + 1)

/-- The place among the siblings, counted from one; one without a parent. -/
def position (v : Vicinity) : Nat :=
  (v.placeIn? v.siblings).getD 1

/-- The siblings with the same tag, up to case. -/
def sameTagSiblings (v : Vicinity) : List Vicinity :=
  v.siblings.filter (·.element.hasTag v.element.tagName)

/-- Whether there is text below the element that is not blank. -/
def hasText (v : Vicinity) : Bool :=
  !isBlankText (v.document.textContent v.node)

/-! ### Short forms -/

/-- The shortest selector for the element: its id, else its classes, else its tag. -/
def basic (v : Vicinity) : List Simple :=
  match v.id?, v.classes with
  | some id, _ => [.id id]
  | none, [] => [.type v.tag]
  | none, classes => classes.map .className

/-- The names besides `data-` names whose attributes are worth showing. -/
def notableNames : List String :=
  ["type", "role", "aria-label"]

/-- How many attributes a summary shows at most. -/
def notableLimit : Nat := 3

/-- The attributes worth showing. -/
def notableAttributes (v : Vicinity) : List (String × String) :=
  (v.attributes.filter fun a => a.1.startsWith "data-" || notableNames.contains a.1).take
    notableLimit

/-- The element in short. -/
def summary (v : Vicinity) : Summary where
  tag := v.tag
  id := v.id?
  classes := if v.classes.isEmpty then none else some v.classes
  attributes := v.notableAttributes.map fun (name, value) => name ++ "=\"" ++ value ++ "\""

/-- The parent in short, unless it is the boundary or the document element. -/
def parentSummary? (v : Vicinity) : Option Summary :=
  (v.parent?.filter fun p => !p.isBoundary && !p.isDocumentElement).map summary

end Vicinity

end SelectorFinder.Inspection
