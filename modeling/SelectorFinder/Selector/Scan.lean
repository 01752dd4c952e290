import SelectorFinder.Text.WordChar

/-!
# Scanning for Patterns

A pattern looks at a place in a text, that is at the character before it and the characters
from it on, and says how many characters it takes there; zero means that it does not match.
A scan goes from left to right, takes each match whole and goes on behind it, and so cuts
the text into pieces: matches, and single characters that begin none.

The patterns of a selector text are those of attribute brackets, of ids and classes, of
pseudo-elements and pseudo-classes, and of identifiers.

## Main results

* `joinPieces_pieces`: the pieces of a text, put together, are the text.
-/

namespace SelectorFinder.Selector

open SelectorFinder.Text

/-- Given the character before a place and the characters from it on, the number of
characters that match there; zero if there is no match. -/
abbrev Pattern := Option Char → List Char → Nat

/-- A piece of a scanned text. -/
inductive Piece where
  /-- A character at which no match begins. -/
  | plain (c : Char)
  /-- The characters of a match: its first and the others. -/
  | hit (c : Char) (more : List Char)
  deriving DecidableEq, Repr

namespace Piece

/-- The characters of the text that the piece stands for. -/
def chars : Piece → List Char
  | plain c => [c]
  | hit c more => c :: more

/-- The match, if the piece is one. -/
def match? : Piece → Option (List Char)
  | plain _ => none
  | hit c more => some (c :: more)

end Piece

/-- The pieces of a text, given the character before it. -/
def pieces (p : Pattern) (before : Option Char) : List Char → List Piece
  | [] => []
  | c :: cs =>
    match p before (c :: cs) with
    | 0 => .plain c :: pieces p (some c) cs
    | n + 1 =>
      let more := cs.take n
      .hit c more :: pieces p ((c :: more).getLast?) (cs.drop n)
termination_by cs => cs.length

/-- The matches of a pattern in a text, from left to right. -/
def matchesOf (p : Pattern) (text : List Char) : List (List Char) :=
  (pieces p none text).filterMap Piece.match?

/-- The text with every match replaced. -/
def replaceAll (p : Pattern) (replacement : List Char) (text : List Char) : List Char :=
  (pieces p none text).flatMap fun
    | .plain c => [c]
    | .hit _ _ => replacement

/-- Pieces put together are the text. -/
theorem joinPieces_pieces (p : Pattern) (before : Option Char) (text : List Char) :
    (pieces p before text).flatMap Piece.chars = text := by
  fun_induction pieces p before text with
  | case1 => rfl
  | case2 _ _ _ _ ih => simp [Piece.chars, ih]
  | case3 _ _ _ _ _ more ih => simp [Piece.chars, ih, more, List.take_append_drop]

/-! ### The patterns of a selector text -/

/-- The names of the pseudo-elements that weigh nothing. -/
def weightlessPseudoElements : List (List Char) :=
  ["before".toList, "after".toList, "first-letter".toList, "first-line".toList]

/-- `::before`, `::after`, `::first-letter` or `::first-line`, whatever follows. -/
def pseudoElement : Pattern
  | _, ':' :: ':' :: cs =>
    match weightlessPseudoElements.find? fun name => name.isPrefixOf cs with
    | some name => 2 + name.length
    | none => 0
  | _, _ => 0

/-- A bracket, at least one character, and the first closing bracket behind. -/
def attributeToken : Pattern
  | _, '[' :: cs =>
    let inner := cs.takeWhile (· ≠ ']')
    if inner.isEmpty || inner.length == cs.length then 0 else inner.length + 2
  | _, _ => 0

/-- The length of the name at the start of a text; zero if there is none. -/
def nameLength (cs : List Char) : Nat :=
  (cs.takeWhile isNameChar).length

/-- A mark and the name behind it. -/
def markedName (mark : Char) : Pattern
  | _, c :: cs =>
    if c = mark ∧ nameLength cs ≠ 0 then 1 + nameLength cs else 0
  | _, [] => 0

/-- `#name`. -/
def idToken : Pattern := markedName '#'

/-- `.name`. -/
def classToken : Pattern := markedName '.'

/-- One colon or two, and the name behind. -/
def pseudoName : Pattern
  | _, ':' :: ':' :: cs => if nameLength cs = 0 then 0 else 2 + nameLength cs
  | _, ':' :: cs => if nameLength cs = 0 then 0 else 1 + nameLength cs
  | _, _ => 0

/-- The length of a parenthesis that is closed; zero if there is none. -/
def argumentsLength : List Char → Nat
  | '(' :: cs =>
    let inner := cs.takeWhile (· ≠ ')')
    if inner.length == cs.length then 0 else inner.length + 2
  | _ => 0

/-- One colon or two, the name behind, and its arguments up to the first closing
parenthesis. -/
def pseudoToken : Pattern := fun before cs =>
  match pseudoName before cs with
  | 0 => 0
  | n => n + argumentsLength (cs.drop n)

/-- The word at the start of a text. -/
def wordAt (cs : List Char) : List Char :=
  cs.takeWhile isWordChar

/-- A word of ASCII letters and digits only. -/
def isPlainWord (word : List Char) : Bool :=
  !word.isEmpty && word.all isAsciiAlphanumeric

/-- The length of the hyphens, each with the plain word behind it, that follow a plain word. -/
def hyphenatedLength : List Char → Nat
  | '-' :: cs =>
    let word := wordAt cs
    if isPlainWord word then 1 + word.length + hyphenatedLength (cs.drop word.length) else 0
  | _ => 0
termination_by cs => cs.length
decreasing_by
  simp only [List.length_drop, List.length_cons]
  omega

/-- A whole plain word that starts with a letter, with the plain words hyphenated to it. A
word with any other character is never part of an identifier, not even in part. -/
def identifier : Pattern := fun before cs =>
  if before.any isWordChar then 0
  else
    let word := wordAt cs
    if isPlainWord word && word.head?.any isAsciiLetter then
      word.length + hyphenatedLength (cs.drop word.length)
    else 0

end SelectorFinder.Selector
