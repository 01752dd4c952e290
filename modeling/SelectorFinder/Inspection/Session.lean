import SelectorFinder.Inspection.Inspector

/-!
# Inspection Sessions

A session is switched on and off. While it is on it follows the pointer, until a click pins
it to an element; a second click or an escape lets go again. Each operation takes the
session as it was and gives the one after it, so sessions never share anything.
-/

namespace SelectorFinder.Inspection

open SelectorFinder.Dom

/-- The state of an inspection. -/
structure Session where
  choices : Choices
  active : Bool
  pinned : Bool
  selected : Option NodeId
  deriving DecidableEq, Repr

namespace Session

/-- A session that is switched off. -/
def start (choices : Choices) : Session :=
  ⟨choices, false, false, none⟩

/-- The candidates for a node, with the choices of the session. -/
def candidates (s : Session) (d : Document) (n : NodeId) : List Candidate :=
  (Inspector.ofDocument d s.choices).candidates n

/-- Switches the session on, or off: then nothing stays pinned or selected. -/
def toggle (s : Session) : Session :=
  if s.active then { s with active := false, pinned := false, selected := none }
  else { s with active := true }

/-- The pointer moves onto a node, which counts unless the session is off or pinned. -/
def hover (s : Session) (d : Document) (n : NodeId) : Option (List Candidate) × Session :=
  if !s.active || s.pinned then (none, s)
  else (some (s.candidates d n), { s with selected := some n })

/-- A click on a node: it pins the session to the node, or lets go of a pinned one. -/
def click (s : Session) (d : Document) (n : NodeId) : Option (List Candidate) × Session :=
  if !s.active then (none, s)
  else if s.pinned then (none, { s with pinned := false })
  else (some (s.candidates d n), { s with pinned := true, selected := some n })

/-- Lets go of a pinned session, and switches off one that is not pinned. -/
def escape (s : Session) : Session :=
  if !s.active then s
  else if s.pinned then { s with pinned := false }
  else s.toggle

end Session

end SelectorFinder.Inspection
