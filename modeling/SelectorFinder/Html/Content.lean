import SelectorFinder.Dom.Document
import SelectorFinder.Html.Token

/-!
# The Content of a Page

A page as an ordered tree, and the document made of it. The document keeps elements,
comments and the texts that are not blank, in the order of the tree; document types,
processing instructions and the contents of templates stay outside. Nodes are numbered in
the order in which they start in the page.
-/

namespace SelectorFinder.Html

open SelectorFinder.Dom SelectorFinder.Text

/-- A part of a page. An element has its name and its attributes as they were read, so a name
may come twice; `template` is what a template element holds beside its children. -/
inductive Content where
  | doctype (d : Doctype)
  | instruction (target data : String)
  | comment (data : String)
  | text (data : String)
  | element (name : String) (attributes : List (String × String)) (children : List Content)
      (template : List Content)
  deriving Repr

/-- Adds a new node as the last child of `parent`, and gives its number. -/
def attach (d : Document) (parent : NodeId) (kind : NodeKind) : Document × NodeId :=
  let (d, n) := d.create kind
  (d.link parent n, n)

namespace Content

mutual

/-- Adds what is kept of a part of a page below `parent`. -/
def addTo (parent : NodeId) (d : Document) : Content → Document
  | text data => if isBlankText data then d else (attach d parent (.text data)).1
  | comment data => (attach d parent (.comment data)).1
  | element name attributes children _ =>
    let (d, n) := attach d parent (.element ⟨name, .ofList attributes⟩)
    addAllTo n d children
  | doctype _ => d
  | instruction _ _ => d

/-- Adds what is kept of the parts of a page below `parent`, in order. -/
def addAllTo (parent : NodeId) (d : Document) : List Content → Document
  | [] => d
  | c :: cs => addAllTo parent (addTo parent d c) cs

end

/-- The document of a page. -/
def toDocument (page : List Content) : Document :=
  addAllTo Document.root .empty page

end Content

end SelectorFinder.Html
