import SelectorFinder.Text.Ascii
import SelectorFinder.Text.WordRanges

/-!
# Word Characters

A word character is an ASCII letter, digit or underscore, or a character of `wordRanges`. A
name in a selector is a run of word characters and hyphens.
-/

namespace SelectorFinder.Text

/-- Part of a word: letters, marks, decimal digits, connecting punctuation and the two
joiners, of any script. -/
def isWordChar (c : Char) : Bool :=
  if c.toNat < 0x80 then c.isAlphanum || c == '_'
  else wordRanges.any fun r => r.1 ≤ c.toNat && c.toNat ≤ r.2

/-- Part of a name in a selector: a word character or a hyphen. -/
def isNameChar (c : Char) : Bool :=
  isWordChar c || c == '-'

/-- Among the ASCII characters only letters, digits and the underscore are part of a word. -/
theorem isWordChar_of_lt {c : Char} (h : c.toNat < 0x80) :
    isWordChar c = (c.isAlphanum || c == '_') := by
  simp [isWordChar, h]

/-- A hyphen may not stand in a word. -/
@[simp] theorem isWordChar_hyphen : isWordChar '-' = false := by decide

/-- A hyphen may stand in a name. -/
@[simp] theorem isNameChar_hyphen : isNameChar '-' = true := by decide

end SelectorFinder.Text
