import SelectorFinder.Inspection.Ranking
import SelectorFinder.Inspection.Strategy

/-!
# Inspectors

An inspector fixes a document, a boundary and whether texts may repeat, and gives the ranked
candidates for any node. A node that is no element has none.
-/

namespace SelectorFinder.Inspection

open SelectorFinder.Dom

/-- What a request for candidates may choose. -/
structure Choices where
  /-- Keep only the first candidate of each selector text in ranked order. -/
  distinct : Bool
  deriving DecidableEq, Repr, Inhabited

/-- Gives the candidates for the nodes of a document. -/
structure Inspector where
  document : Document
  boundary : Option NodeId
  choices : Choices

namespace Inspector

/-- The body, or the document element of a page without one. -/
def defaultBoundary? (d : Document) : Option NodeId :=
  d.body?.or d.documentElement?

/-- The inspector of a document with the default boundary. -/
def ofDocument (d : Document) (choices : Choices) : Inspector :=
  ⟨d, defaultBoundary? d, choices⟩

/-- The ranked candidates for a node. -/
def candidates (i : Inspector) (n : NodeId) : List Candidate :=
  match Vicinity.at? i.document i.boundary n with
  | none => []
  | some v =>
    let ranked := rankBy Candidate.weight v.candidates
    if i.choices.distinct then distinctBy Candidate.selector ranked else ranked

end Inspector

end SelectorFinder.Inspection
