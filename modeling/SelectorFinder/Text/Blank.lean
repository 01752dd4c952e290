import SelectorFinder.Text.Runs

/-!
# Blank Characters

Characters with the White_Space property of the Unicode standard. A text is blank when it
holds nothing else, and its words are its runs without a blank.

## Main results

* `isBlank_of_isWhitespace`: every character that the core library calls white space is
  blank.
-/

namespace SelectorFinder.Text

/-- The White_Space property. -/
def isBlank (c : Char) : Bool :=
  let n := c.toNat
  (9 ≤ n && n ≤ 13) || n == 0x20 || n == 0x85 || n == 0xA0 || n == 0x1680 ||
    (0x2000 ≤ n && n ≤ 0x200A) || n == 0x2028 || n == 0x2029 || n == 0x202F ||
    n == 0x205F || n == 0x3000

/-- White space of the core library is blank. -/
theorem isBlank_of_isWhitespace {c : Char} (h : c.isWhitespace = true) : isBlank c = true := by
  simp only [Char.isWhitespace, Bool.or_eq_true, decide_eq_true_eq] at h
  rcases h with ((h | h) | h) | h <;> subst h <;> decide

/-- A text of blank characters only; the empty text is one. -/
def isBlankText (s : String) : Bool :=
  s.toList.all isBlank

/-- The words of a text. -/
def wordsOf (s : String) : List String :=
  (runs isBlank s.toList).map String.ofList

/-- A word has a character at least. -/
theorem ne_empty_of_mem_wordsOf {s word : String} (h : word ∈ wordsOf s) : word ≠ "" := by
  obtain ⟨run, hrun, rfl⟩ := List.mem_map.1 h
  intro he
  exact ne_nil_of_mem_runs hrun (by simpa using congrArg String.toList he)

end SelectorFinder.Text
