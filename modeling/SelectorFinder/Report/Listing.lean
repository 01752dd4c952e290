import SelectorFinder.Report.Painter
import SelectorFinder.Inspection.Inspector

/-!
# Listings

A listing is what is reported of one element: the path that leads to it, its label, and its
ranked candidates. Rendered, it is a heading, a line on the parent if there is one to show,
three lines for each candidate, and an empty line.
-/

namespace SelectorFinder.Report

open SelectorFinder.Dom SelectorFinder.Inspection

/-- The candidates of one element. -/
structure Listing where
  path : Option String
  label : String
  candidates : List Candidate
  deriving DecidableEq, Repr

/-- A path of indices as text, with slashes between. -/
def pathText (path : List Nat) : String :=
  String.intercalate "/" (path.map toString)

/-- The tag of a node with its id and its classes. -/
def labelOf (d : Document) (n : NodeId) : String :=
  match d.element? n with
  | none => "#node"
  | some e =>
    let id := match e.id? with
      | some id => "#" ++ id
      | none => ""
    e.localName ++ id ++ String.join (e.classes.map ("." ++ ·))

/-- Fills a text up with blanks to a width; a longer text stays as it is. -/
def padRight (width : Nat) (text : String) : String :=
  text ++ "".pushn ' ' (width - text.length)

/-- Puts blanks before a text up to a width; a longer text stays as it is. -/
def padLeft (width : Nat) (text : String) : String :=
  "".pushn ' ' (width - text.length) ++ text

namespace Listing

/-- The listing of a node. -/
def ofNode (i : Inspector) (n : NodeId) : Listing where
  path := (i.document.path? n).map pathText
  label := labelOf i.document n
  candidates := i.candidates n

/-- The width of the column of labels. -/
def labelWidth : Nat := 28

/-- The heading: the label and, unless it is empty, the path. -/
def heading (l : Listing) : String :=
  match l.path with
  | none | some "" => "=== " ++ l.label ++ " ==="
  | some path => "=== " ++ l.label ++ " (" ++ path ++ ") ==="

/-- The line on a parent: its short form and its notable attributes. -/
def parentLine (s : Summary) : String :=
  let attributes :=
    if s.attributes.isEmpty then "" else "  " ++ String.intercalate " " s.attributes
  "parent: " ++ s.toText ++ attributes

/-- The three lines of a candidate with its number in the list. -/
def candidateLines (p : Painter) (number : Nat) (c : Candidate) : String :=
  padLeft 3 (toString number) ++ ". " ++ p.paint .magenta (padRight labelWidth c.kind.label) ++
    " " ++ p.weight c.weight ++ "\n" ++
  "     " ++ p.paint .bold c.selector ++ "\n" ++
  "     " ++ c.description ++ "\n"

/-- The candidates' lines, numbered from a given number on. -/
def numberedLines (p : Painter) : Nat → List Candidate → String
  | _, [] => ""
  | number, c :: cs => candidateLines p number c ++ numberedLines p (number + 1) cs

/-- The listing as text. -/
def render (p : Painter) (l : Listing) : String :=
  let parent := match l.candidates.head?.bind (·.parent) with
    | some s => p.paint .dimmed (parentLine s) ++ "\n"
    | none => ""
  p.paint .bold l.heading ++ "\n" ++ parent ++ numberedLines p 1 l.candidates ++ "\n"

end Listing

end SelectorFinder.Report
