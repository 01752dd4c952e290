import SelectorFinder.Html.ReferenceNames
import SelectorFinder.Text.Ascii

/-!
# Character References

A character reference stands for one or two characters: `&amp;` by name, `&#38;` and
`&#x26;` by number. `Reference.expand` replaces the references in a text. An ampersand that
starts none stands for itself.

Some names need no semicolon. In the value of an attribute such a name counts only if no
letter, digit or equals sign comes right behind it, so that the parameters of an address
stay as they are.
-/

namespace SelectorFinder.Html.Reference

open SelectorFinder.Text

/-- The text cut at its white space. -/
def tableWords (table : String) : List String :=
  table.splitToList (fun c => c == ' ' || c == '\n')

/-- The value of a digit in any base up to sixteen. -/
def digit? (c : Char) : Option Nat :=
  if c.isDigit then some (c.toNat - '0'.toNat)
  else if 'a' ≤ c ∧ c ≤ 'f' then some (c.toNat - 'a'.toNat + 10)
  else if 'A' ≤ c ∧ c ≤ 'F' then some (c.toNat - 'A'.toNat + 10)
  else none

/-- The number that some digits write in a base. -/
def numberOf (base : Nat) (digits : List Char) : Nat :=
  digits.foldl (fun n c => n * base + (digit? c).getD 0) 0

/-- The characters of a table entry. -/
def entryChars (codes : String) : List Char :=
  (codes.splitToList (· == '+')).map fun code => Char.ofNat (numberOf 16 code.toList)

/-- Entries of alternating names and code points. -/
def entries : List String → List (List Char × List Char)
  | name :: codes :: rest => (name.toList, entryChars codes) :: entries rest
  | _ => []

/-- The names with what they stand for. -/
def names : List (List Char × List Char) :=
  entries (tableWords referenceTable)

/-- The names that need no semicolon. -/
def bareNames : List (List Char) :=
  (tableWords bareNameTable).map String.toList

/-- What a name stands for. -/
def expansion? (name : List Char) : Option (List Char) :=
  names.lookup name

/-- The longest name that needs no semicolon at the start of a run of letters and digits. -/
def barePrefix? (run : List Char) : Option (List Char) :=
  (List.range (run.length + 1)).reverse.findSome? fun n =>
    (bareNames.find? (· == run.take n))

/-- A reference that was found: the characters it stands for, and how many characters behind
the ampersand it takes. -/
structure Match where
  chars : List Char
  length : Nat
  deriving Repr

/-- A named reference at the start of what follows an ampersand. -/
def named? (inAttribute : Bool) (cs : List Char) : Option Match :=
  let run := cs.takeWhile isAsciiAlphanumeric
  let whole := if cs[run.length]? = some ';' then expansion? run else none
  match whole with
  | some chars => some ⟨chars, run.length + 1⟩
  | none => do
    let bare ← barePrefix? run
    let chars ← expansion? bare
    let keeps := match cs[bare.length]? with
      | some c => inAttribute && (c == '=' || isAsciiAlphanumeric c)
      | none => false
    if keeps then none else some ⟨chars, bare.length⟩

/-- What the numbers from 0x80 to 0x9F stand for, where it is not the character of that
number. -/
def windowsChars : List (Nat × Nat) :=
  [(0x80, 0x20AC), (0x82, 0x201A), (0x83, 0x192), (0x84, 0x201E), (0x85, 0x2026),
   (0x86, 0x2020), (0x87, 0x2021), (0x88, 0x2C6), (0x89, 0x2030), (0x8A, 0x160),
   (0x8B, 0x2039), (0x8C, 0x152), (0x8E, 0x17D), (0x91, 0x2018), (0x92, 0x2019),
   (0x93, 0x201C), (0x94, 0x201D), (0x95, 0x2022), (0x96, 0x2013), (0x97, 0x2014),
   (0x98, 0x2DC), (0x99, 0x2122), (0x9A, 0x161), (0x9B, 0x203A), (0x9C, 0x153),
   (0x9E, 0x17E), (0x9F, 0x178)]

/-- The character that a number stands for; U+FFFD for zero and for what is no character. -/
def charOfNumber (n : Nat) : Char :=
  if n = 0 ∨ 0x10FFFF < n ∨ (0xD800 ≤ n ∧ n ≤ 0xDFFF) then '\uFFFD'
  else Char.ofNat ((windowsChars.lookup n).getD n)

/-- A numeric reference, given its digits and how many characters come before them. -/
def numbered? (base before : Nat) (cs : List Char) : Option Match :=
  let digits := cs.takeWhile fun c => (digit? c).any (· < base)
  if digits.isEmpty then none
  else
    let semicolon := if cs[digits.length]? = some ';' then 1 else 0
    some ⟨[charOfNumber (numberOf base digits)], before + digits.length + semicolon⟩

/-- A reference at the start of what follows an ampersand. -/
def match? (inAttribute : Bool) : List Char → Option Match
  | '#' :: 'x' :: cs => numbered? 16 2 cs
  | '#' :: 'X' :: cs => numbered? 16 2 cs
  | '#' :: cs => numbered? 10 1 cs
  | cs => named? inAttribute cs

/-- Whether a text starts with a numeric reference that lacks its semicolon. -/
def startsBare : List Char → Bool
  | '&' :: '#' :: cs =>
    match match? false ('#' :: cs) with
    | some m => cs[m.length - 2]? != some ';'
    | none => false
  | _ => false

/-- The text with its references replaced. -/
def expand (inAttribute : Bool) : List Char → List Char
  | [] => []
  | c :: cs =>
    if c = '&' then
      match match? inAttribute cs with
      | some m => m.chars ++ expand inAttribute (cs.drop m.length)
      | none => c :: expand inAttribute cs
    else c :: expand inAttribute cs
termination_by cs => cs.length

/-- A text without an ampersand stays as it is. -/
theorem expand_of_notMem {inAttribute : Bool} {cs : List Char} (h : '&' ∉ cs) :
    expand inAttribute cs = cs := by
  induction cs with
  | nil => simp [expand]
  | cons c cs ih =>
    have hc : c ≠ '&' := fun e => h (e ▸ List.mem_cons_self)
    simp [expand, hc, ih fun m => h (List.mem_cons_of_mem _ m)]

end SelectorFinder.Html.Reference
