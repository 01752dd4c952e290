import SelectorFinder.Selector.Specificity
import SelectorFinder.Inspection.Summary

/-!
# Candidates

A candidate is a selector text for an element, with its kind, a line that explains it, its
weight and a summary of the element's parent.
-/

namespace SelectorFinder.Inspection

open SelectorFinder.Selector

/-- The ways to select an element. -/
inductive CandidateKind where
  | basic
  | fullPath
  | attributes
  | nthChild
  | before
  | after
  | hover
  | visited
  | viaParent
  | directChild
  | adjacentSibling
  | hasChild
  | hasTag
  | notSibling
  | notClass
  | weightless
  | isParent
  | nthOfType
  | firstChild
  | lastChild
  | onlyChild
  | empty
  | disabled
  | enabled
  | focus
  | focusWithin
  | checked
  | required
  | optional
  | valid
  | invalid
  deriving DecidableEq, Repr

/-- The name of a kind as it is shown beside the selector. -/
def CandidateKind.label : CandidateKind → String
  | basic => "Basic"
  | fullPath => "Full path"
  | attributes => "By attributes"
  | nthChild => "nth-child"
  | before => "Pseudo ::before"
  | after => "Pseudo ::after"
  | hover => "Hover"
  | visited => "Visited link"
  | viaParent => "Via parent"
  | directChild => "Direct child"
  | adjacentSibling => "Adjacent sibling"
  | hasChild => ":has() - contains child"
  | hasTag => ":has() - contains tag"
  | notSibling => ":not() - excludes sibling"
  | notClass => ":not() - without class"
  | weightless => ":where() - zero specificity"
  | isParent => ":is() - modern alternative"
  | nthOfType => ":nth-of-type()"
  | firstChild => ":first-child"
  | lastChild => ":last-child"
  | onlyChild => ":only-child"
  | empty => ":empty"
  | disabled => ":disabled"
  | enabled => ":enabled"
  | focus => ":focus"
  | focusWithin => ":focus-within"
  | checked => ":checked"
  | required => ":required"
  | optional => ":optional"
  | valid => ":valid"
  | invalid => ":invalid"

/-- A selector text for an element. -/
structure Candidate where
  kind : CandidateKind
  selector : String
  description : String
  weight : Weight
  parent : Option Summary
  deriving DecidableEq, Repr

end SelectorFinder.Inspection
