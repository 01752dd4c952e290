import SelectorFinder.Selector.Scan
import SelectorFinder.Selector.Weight

/-!
# The Specificity of a Selector Text

Any text has a weight: it is scanned, not parsed, and what matches no pattern counts for
nothing. The scan goes in steps, each of which blanks out what it has counted, so that no
character counts twice:

1. the pseudo-elements `::before`, `::after`, `::first-letter` and `::first-line` are
   taken out;
2. attribute brackets count as classes;
3. ids count as ids, classes as classes, and pseudo-classes as classes;
4. behind ids, classes and the names of pseudo-classes, the identifiers left count as
   elements, unless they are one of the keywords of a selector's own syntax. The arguments
   of pseudo-classes take part in this step.
-/

namespace SelectorFinder.Selector

open SelectorFinder.Text

/-- Words that are part of how selectors are written and name no element. -/
def keywords : List (List Char) :=
  ["and".toList, "or".toList, "not".toList, "from".toList, "to".toList, "of".toList]

/-- Whether an identifier is a keyword, up to case. -/
def isKeyword (identifier : List Char) : Bool :=
  keywords.contains (identifier.map Char.toLower)

/-- The number of matches of a pattern, as a component of a weight. -/
def countOf (p : Pattern) (text : List Char) : Nat :=
  Weight.capped (matchesOf p text).length

/-- The text without the pseudo-elements that weigh nothing. -/
def withoutPseudoElements (text : List Char) : List Char :=
  replaceAll pseudoElement [] text

/-- The text with a blank for each match of the pattern. -/
def blanked (p : Pattern) (text : List Char) : List Char :=
  replaceAll p [' '] text

/-- A match of a pseudo-class: it starts with one colon, not with two. -/
def isPseudoClass (token : List Char) : Bool :=
  !"::".toList.isPrefixOf token

/-- How many pseudo-classes there are. -/
def pseudoClassCount (text : List Char) : Nat :=
  Weight.capped ((matchesOf pseudoToken text).filter isPseudoClass).length

/-- How many type names there are, in a text from which all else is blanked out. -/
def typeNameCount (text : List Char) : Nat :=
  Weight.capped ((matchesOf identifier text).filter (!isKeyword ·)).length

/-- The weight of a selector text, as a list of characters. -/
def weigh (selector : List Char) : Weight :=
  let text := withoutPseudoElements selector
  let scanned := blanked attributeToken text
  let named := blanked pseudoName (blanked classToken (blanked idToken scanned))
  { inline := 0
    ids := countOf idToken scanned
    classes :=
      Weight.addCapped
        (Weight.addCapped (countOf classToken scanned) (countOf attributeToken text))
        (pseudoClassCount scanned)
    elements := typeNameCount named }

/-- The weight of a selector text. -/
def specificity (selector : String) : Weight :=
  weigh selector.toList

end SelectorFinder.Selector
