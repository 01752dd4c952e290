import SelectorFinder.Inspection.Candidate
import SelectorFinder.Inspection.Vicinity

/-!
# Strategies

A strategy looks at an element in its vicinity and proposes selectors for it, or none. All
strategies run, in the order of `strategies`, and what they propose together are the
element's candidates before ranking.

A proposal's weight is the specificity of its written form, except under `:where()`, which
takes all weight away.
-/

namespace SelectorFinder.Inspection

open SelectorFinder.Dom SelectorFinder.Selector

/-- A selector for an element, before it is weighed. -/
structure Proposal where
  kind : CandidateKind
  selector : Selector
  description : String
  deriving DecidableEq, Repr

/-- What is proposed for an element. -/
abbrev Strategy := Vicinity → List Proposal

/-- The weight of a proposal. -/
def Proposal.weight (p : Proposal) : Weight :=
  match p.kind with
  | .weightless => .zero
  | _ => specificity p.selector.render

/-- A proposal as a candidate for the element of a vicinity. -/
def Proposal.toCandidate (p : Proposal) (v : Vicinity) : Candidate where
  kind := p.kind
  selector := p.selector.render
  description := p.description
  weight := p.weight
  parent := v.parentSummary?

namespace Strategy

/-- The element's tag as a compound. -/
def tagged (v : Vicinity) : Compound :=
  [.simple (.type v.tag)]

/-- The element's basic selector as a compound. -/
def basicOf (v : Vicinity) : Compound :=
  .ofSimple v.basic

/-- The basic selector and a pseudo-class. -/
def inState (kind : CandidateKind) (state description : String) (v : Vicinity) : Proposal :=
  ⟨kind, .ofCompound (basicOf v ++ [.state state]), description⟩

/-- The id, the classes or the tag. -/
def basic : Strategy := fun v =>
  [⟨.basic, .ofCompound (basicOf v), "Simple selector by tag, class or id"⟩]

/-- The index that tells an element from its siblings of the same tag, if there are any. -/
def typeIndex? (v : Vicinity) : Option Nat :=
  if v.sameTagSiblings.length > 1 then v.placeIn? v.sameTagSiblings else none

/-- An element's level of a path: its id alone, or its tag, its classes and its index among
the siblings of the same tag. -/
def level (v : Vicinity) : Compound :=
  match v.id? with
  | some id => [.simple (.id id)]
  | none =>
    .simple (.type v.tag) :: v.classes.map (.simple <| .className ·) ++
      (typeIndex? v).toList.map .nthOfType

/-- The levels from an element upward, outermost first. They end with an id, below the
boundary, and where there is no parent element. -/
def levels : Nat → Vicinity → List Compound
  | 0, _ => []
  | budget + 1, v =>
    if v.id?.isSome || v.isBoundary then [level v]
    else
      match v.anchor? with
      | some parent => levels budget parent ++ [level v]
      | none => [level v]

/-- The levels from the boundary down to the element. -/
def fullPath : Strategy := fun v =>
  [⟨.fullPath, .ofLevels (levels v.document.size v), "Full path from the document root"⟩]

/-- The tag with all `data-` attributes. -/
def dataAttributes : Strategy := fun v =>
  match v.dataAttributes with
  | [] => []
  | attributes =>
    [⟨.attributes,
      .ofCompound (tagged v ++ attributes.map fun (name, value) => .simple (.attr name value)),
      "Based on the element's data attributes"⟩]

/-- The place among the parent's children, or the tag where there is no parent. -/
def nthChild : Strategy := fun v =>
  let selector := match v.parent? with
    | some parent => .pair (tagged parent) .child [.nthChild v.position]
    | none => .ofCompound (tagged v)
  [⟨.nthChild, selector, "Position relative to the parent"⟩]

/-- The generated content before and after. -/
def pseudoElements : Strategy := fun v =>
  if v.element.isVoidLike then []
  else
    [⟨.before, .ofCompound (basicOf v ++ [.pseudoElement "before"]),
      "Pseudo-element before the content"⟩,
     ⟨.after, .ofCompound (basicOf v ++ [.pseudoElement "after"]),
      "Pseudo-element after the content"⟩]

/-- The element under the pointer. -/
def hover : Strategy := fun v =>
  [inState .hover "hover" "State while hovered" v]

/-- A link that was followed. -/
def visited : Strategy := fun v =>
  if v.element.isAnchor then [inState .visited "visited" "Link already visited" v] else []

/-- The tag, reached by a combinator from the basic selector of a neighbour, if there is one. -/
def fromNeighbour (neighbour? : Vicinity → Option Vicinity) (kind : CandidateKind)
    (combinator : Combinator) (description : String) : Strategy := fun v =>
  match neighbour? v with
  | some w => [⟨kind, .pair (basicOf w) combinator (tagged v), description⟩]
  | none => []

/-- The tag below the parent. -/
def viaParent : Strategy :=
  fromNeighbour Vicinity.anchor? .viaParent .descendant "Targets the element through its parent"

/-- The tag directly below the parent. -/
def directChild : Strategy :=
  fromNeighbour Vicinity.anchor? .directChild .child "Direct child of the parent"

/-- The tag behind the element before. -/
def adjacentSibling : Strategy :=
  fromNeighbour Vicinity.previous? .adjacentSibling .nextSibling
    "Element directly following a sibling"

/-- The tag with the first child in it, by the child's basic selector and by its tag. -/
def has : Strategy := fun v =>
  match v.children with
  | child :: _ =>
    [⟨.hasChild, .ofCompound (tagged v ++ [.has child.basic]),
      "Element containing " ++ renderSimple child.basic⟩,
     ⟨.hasTag, .ofCompound (tagged v ++ [.has [.type child.tag]]),
      "Element containing a " ++ child.tag⟩]
  | [] => []

/-- The tag without the first other child of the parent. -/
def notSibling : Strategy := fun v =>
  match v.siblings.find? (·.node != v.node) with
  | some sibling =>
    [⟨.notSibling, .ofCompound (tagged v ++ [.isNot sibling.basic]),
      v.tag ++ " that is not " ++ renderSimple sibling.basic⟩]
  | none => []

/-- The tag without the element's second class. -/
def notClass : Strategy := fun v =>
  match v.classes with
  | _ :: second :: _ =>
    [⟨.notClass, .ofCompound (tagged v ++ [.isNot [.className second]]),
      v.tag ++ " without the class " ++ second⟩]
  | _ => []

/-- The basic selector without its weight. -/
def weightless : Strategy := fun v =>
  [⟨.weightless, .ofCompound [.whereAny v.basic], "Zero-specificity selector (lowest priority)"⟩]

/-- The tag below the parent, written with `:is()`. -/
def isParent : Strategy := fun v =>
  match v.parent? with
  | some parent =>
    [⟨.isParent, .pair [.isAny parent.basic] .descendant (tagged v), "Modern equivalent selector"⟩]
  | none => []

/-- The index among the siblings of the same tag. -/
def nthOfType : Strategy := fun v =>
  match typeIndex? v with
  | some n =>
    [⟨.nthOfType, .ofCompound (tagged v ++ [.nthOfType n]),
      v.tag ++ " number " ++ toString n ++ " of its type in the parent"⟩]
  | none => []

/-- The first, last or only child. -/
def childPosition : Strategy := fun v =>
  match v.siblings with
  | [] => []
  | [only] =>
    if only.node == v.node then
      [inState .onlyChild "only-child" "Only child of its parent" v]
    else []
  | first :: second :: more =>
    let last := (second :: more).getLastD first
    (if first.node == v.node then
      [inState .firstChild "first-child" "First child of its parent" v]
    else []) ++
    (if last.node == v.node then
      [inState .lastChild "last-child" "Last child of its parent" v]
    else [])

/-- An element with no child element and no text that is not blank. -/
def empty : Strategy := fun v =>
  if v.children.isEmpty && !v.hasText then
    [inState .empty "empty" "Element without content" v]
  else []

/-- The states of a form control, and the parent that holds the focus. -/
def formControl : Strategy := fun v =>
  if v.element.isFormControl then
    [inState .disabled "disabled" "Disabled form control" v,
     inState .enabled "enabled" "Enabled form control" v,
     inState .focus "focus" "Control that has focus" v] ++
    match v.parent? with
    | some parent =>
      [⟨.focusWithin,
        .pair (basicOf parent ++ [.state "focus-within"]) .descendant (tagged v),
        "Child of an element that contains focus"⟩]
    | none => []
  else []

/-- The states of an input. -/
def input : Strategy := fun v =>
  if v.element.isInput then
    (if v.element.isCheckableInput then
      [inState .checked "checked" "Checked input (checkbox or radio)" v]
    else []) ++
    [inState .required "required" "Required field" v,
     inState .optional "optional" "Optional field" v,
     inState .valid "valid" "Field with a valid value" v,
     inState .invalid "invalid" "Field with an invalid value" v]
  else []

end Strategy

open Strategy in
/-- All strategies, in the order in which candidates of equal weight are kept. -/
def strategies : List Strategy :=
  [basic, fullPath, dataAttributes, nthChild, pseudoElements, hover, visited, viaParent,
   directChild, adjacentSibling, has, notSibling, notClass, weightless, isParent, nthOfType,
   childPosition, Strategy.empty, formControl, input]

namespace Vicinity

/-- What all strategies propose for the element. -/
def proposals (v : Vicinity) : List Proposal :=
  strategies.flatMap (· v)

/-- The candidates for the element, in the order of the strategies. -/
def candidates (v : Vicinity) : List Candidate :=
  v.proposals.map (·.toCandidate v)

end Vicinity

end SelectorFinder.Inspection
