/-!
# Selectors

The selectors that are written for an element: compounds of simple selectors, joined by
combinators. A pseudo-class that takes selectors takes compounds without pseudo-classes
only, so the arguments do not nest. Names stand in the written form as they are, without
escapes.
-/

namespace SelectorFinder

namespace Selector

/-- A condition on an element by itself. -/
inductive Simple where
  | type (name : String)
  | id (name : String)
  | className (name : String)
  | attr (name value : String)
  deriving DecidableEq, Repr

/-- A part of a compound: a simple selector, a pseudo-class, or a pseudo-element. -/
inductive Part where
  | simple (s : Simple)
  /-- A pseudo-class without arguments. -/
  | state (name : String)
  | nthChild (n : Nat)
  | nthOfType (n : Nat)
  | has (inner : List Simple)
  | isNot (inner : List Simple)
  | isAny (inner : List Simple)
  | whereAny (inner : List Simple)
  /-- Content generated before or after that of the element. -/
  | pseudoElement (name : String)
  deriving DecidableEq, Repr

/-- Conditions that all hold of one element. -/
abbrev Compound := List Part

/-- How the element of a compound stands to that of the one before. -/
inductive Combinator where
  | descendant
  | child
  | nextSibling
  deriving DecidableEq, Repr

end Selector

/-- Compounds joined by combinators; the last one is that of the selected element. -/
structure Selector where
  first : Selector.Compound
  rest : List (Selector.Combinator × Selector.Compound)
  deriving DecidableEq, Repr

namespace Selector

/-- Simple selectors as a compound. -/
def Compound.ofSimple (simple : List Simple) : Compound :=
  simple.map .simple

/-- A selector of a single compound. -/
def ofCompound (c : Compound) : Selector :=
  ⟨c, []⟩

/-- A selector of two compounds. -/
def pair (c : Compound) (between : Combinator) (c' : Compound) : Selector :=
  ⟨c, [(between, c')]⟩

/-- Compounds from the outermost level to the innermost, each a descendant of the one
before. -/
def ofLevels : List Compound → Selector
  | [] => ⟨[], []⟩
  | c :: cs => ⟨c, cs.map fun c => (.descendant, c)⟩

/-! ### The written form -/

/-- The written form of a simple selector. -/
def Simple.render : Simple → String
  | type name => name
  | id name => "#" ++ name
  | className name => "." ++ name
  | attr name value => "[" ++ name ++ "=\"" ++ value ++ "\"]"

/-- The written form of simple selectors on one element. -/
def renderSimple (simple : List Simple) : String :=
  String.join (simple.map Simple.render)

/-- The written form of a part of a compound. -/
def Part.render : Part → String
  | simple s => s.render
  | state name => ":" ++ name
  | nthChild n => ":nth-child(" ++ toString n ++ ")"
  | nthOfType n => ":nth-of-type(" ++ toString n ++ ")"
  | has inner => ":has(" ++ renderSimple inner ++ ")"
  | isNot inner => ":not(" ++ renderSimple inner ++ ")"
  | isAny inner => ":is(" ++ renderSimple inner ++ ")"
  | whereAny inner => ":where(" ++ renderSimple inner ++ ")"
  | pseudoElement name => "::" ++ name

/-- The written form of a compound. -/
def Compound.render (c : Compound) : String :=
  String.join (c.map Part.render)

/-- The written form of a combinator. -/
def Combinator.render : Combinator → String
  | descendant => " "
  | child => " > "
  | nextSibling => " + "

/-- The written form of a selector. -/
def render (s : Selector) : String :=
  s.first.render ++ String.join (s.rest.map fun (between, c) => between.render ++ Compound.render c)

end Selector

end SelectorFinder
