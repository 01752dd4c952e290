import SelectorFinder.Text.Runs

/-!
# Paths on the Command Line

A path is a list of indices with slashes between; slashes too many do not matter, so the
empty text is the empty path. An index is written in decimal digits, with a plus sign before
them or not, and is below 2 ^ 64.
-/

namespace SelectorFinder.CommandLine

open SelectorFinder.Text

/-- Why a text is no index. -/
inductive IndexError where
  | notDigit
  | tooLarge
  deriving DecidableEq, Repr

/-- What is said of a text that is no index. -/
def IndexError.message : IndexError → String
  | notDigit => "invalid digit found in string"
  | tooLarge => "number too large to fit in target type"

/-- The bound below which indices are. -/
def indexBound : Nat := 18446744073709551616

/-- The index that some digits write, behind those that write `n`. The first character at
which the digits go wrong decides what is wrong. -/
def readDigits (n : Nat) : List Char → Except IndexError Nat
  | [] => .ok n
  | c :: cs =>
    if c.isDigit then
      let m := 10 * n + (c.toNat - '0'.toNat)
      if m < indexBound then readDigits m cs else .error .tooLarge
    else .error .notDigit

/-- The index that a text writes. -/
def readIndex : List Char → Except IndexError Nat
  | [] | ['+'] => .error .notDigit
  | '+' :: cs => readDigits 0 cs
  | cs => readDigits 0 cs

/-- A segment of a path that is no index. -/
structure SegmentError where
  segment : String
  cause : IndexError
  deriving DecidableEq, Repr

/-- The indices of some segments; the first that is no index is at fault. -/
def readSegments : List (List Char) → Except SegmentError (List Nat)
  | [] => .ok []
  | s :: ss =>
    match readIndex s with
    | .error cause => .error ⟨String.ofList s, cause⟩
    | .ok n => (readSegments ss).map (n :: ·)

/-- The path that a text writes. -/
def readPath (text : String) : Except SegmentError (List Nat) :=
  readSegments (runs (· == '/') text.toList)

end SelectorFinder.CommandLine
