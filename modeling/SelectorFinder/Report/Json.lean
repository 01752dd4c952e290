import SelectorFinder.Report.Listing

/-!
# Listings as JSON

The JSON values that listings and weights are written as, and their indented text: each
member on its own line, two blanks deeper than its container, and empty containers on one
line. In strings only the quote, the backslash and the control characters below U+0020 are
escaped.
-/

namespace SelectorFinder.Report

open SelectorFinder.Inspection SelectorFinder.Selector

/-- A JSON value; the members of an object are in the order in which they are written. -/
inductive Json where
  | null
  | number (n : Nat)
  | string (s : String)
  | array (items : List Json)
  | object (members : List (String × Json))
  deriving Repr

namespace Json

/-- A character of a string, as it is written between the quotes. -/
def escapeChar (c : Char) : String :=
  match c with
  | '"' => "\\\""
  | '\\' => "\\\\"
  | '\x08' => "\\b"
  | '\t' => "\\t"
  | '\n' => "\\n"
  | '\x0c' => "\\f"
  | '\r' => "\\r"
  | c =>
    if c.toNat < 0x20 then
      "\\u00" ++ (Nat.digitChar (c.toNat / 16)).toString ++ (Nat.digitChar (c.toNat % 16)).toString
    else c.toString

/-- A string with its quotes. -/
def quote (s : String) : String :=
  "\"" ++ String.join (s.toList.map escapeChar) ++ "\""

/-- A new line, indented to a depth. -/
def newLine (depth : Nat) : String :=
  "\n" ++ "".pushn ' ' (2 * depth)

mutual

/-- The indented text of a value that starts at some depth. -/
def render (depth : Nat) : Json → String
  | null => "null"
  | number n => toString n
  | string s => quote s
  | array [] => "[]"
  | array (v :: vs) =>
    "[" ++ newLine (depth + 1) ++ render (depth + 1) v ++ renderItems (depth + 1) vs ++
      newLine depth ++ "]"
  | object [] => "\x7b\x7d"
  | object ((k, v) :: ms) =>
    "\x7b" ++ newLine (depth + 1) ++ quote k ++ ": " ++ render (depth + 1) v ++
      renderMembers (depth + 1) ms ++ newLine depth ++ "\x7d"

/-- The items behind the first, each after a comma. -/
def renderItems (depth : Nat) : List Json → String
  | [] => ""
  | v :: vs => "," ++ newLine depth ++ render depth v ++ renderItems depth vs

/-- The members behind the first, each after a comma. -/
def renderMembers (depth : Nat) : List (String × Json) → String
  | [] => ""
  | (k, v) :: ms =>
    "," ++ newLine depth ++ quote k ++ ": " ++ render depth v ++ renderMembers depth ms

end

/-- A text, or null. -/
def ofText? : Option String → Json
  | some s => string s
  | none => null

/-- A list of texts. -/
def ofTexts (texts : List String) : Json :=
  array (texts.map string)

/-- A weight by its components. -/
def ofWeight (w : Weight) : Json :=
  object [("inline", number w.inline), ("ids", number w.ids), ("classes", number w.classes),
    ("elements", number w.elements)]

/-- A summary of an element. -/
def ofSummary (s : Summary) : Json :=
  object [("tag", string s.tag), ("id", ofText? s.id),
    ("classes", match s.classes with
      | some classes => ofTexts classes
      | none => null),
    ("attributes", ofTexts s.attributes)]

/-- A candidate with all that belongs to it. -/
def ofCandidate (c : Candidate) : Json :=
  object [("type", string c.kind.label), ("selector", string c.selector),
    ("description", string c.description), ("specificity", ofWeight c.weight),
    ("parent", match c.parent with
      | some s => ofSummary s
      | none => null)]

/-- A listing. -/
def ofListing (l : Listing) : Json :=
  object [("path", ofText? l.path), ("element", string l.label),
    ("candidates", array (l.candidates.map ofCandidate))]

end Json

end SelectorFinder.Report
