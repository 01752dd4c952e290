/-!
# ASCII Case

Names in a page compare with the case of the 26 ASCII letters folded and every other
character untouched. `lower` is the folded form of a text, and two texts are equal up to
case exactly when their folded forms are equal (`sameName_iff`).
-/

namespace SelectorFinder.Text

/-- The text with `A` to `Z` replaced by `a` to `z`; no other character changes. -/
def lower (s : String) : String :=
  String.ofList (s.toList.map Char.toLower)

/-- Equality up to the case of ASCII letters. -/
def sameName (s t : String) : Bool :=
  lower s == lower t

/-- Names are the same if they are in lower case. -/
theorem sameName_iff {s t : String} : sameName s t = true ↔ lower s = lower t := by
  simp [sameName]

/-- A name is the same as itself. -/
@[simp] theorem sameName_self (s : String) : sameName s s = true := by
  simp [sameName]

/-- An ASCII letter, of either case. -/
def isAsciiLetter (c : Char) : Bool :=
  c.isAlpha

/-- An ASCII letter or digit. -/
def isAsciiAlphanumeric (c : Char) : Bool :=
  c.isAlphanum

/-- Whether a list of characters starts with a word, up to the case of ASCII letters. The
word is given in lower case. -/
def startsWithName : List Char → List Char → Bool
  | [], _ => true
  | _ :: _, [] => false
  | w :: ws, c :: cs => w == c.toLower && startsWithName ws cs

end SelectorFinder.Text
