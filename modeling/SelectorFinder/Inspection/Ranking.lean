import SelectorFinder.Selector.Weight

/-!
# Ranking

Things that have a weight are ranked heaviest first, those of equal weight in the order in
which they came. Of things that have the same text, only the first may be kept.

## Main results

* `perm_rankBy`: ranking loses and repeats nothing.
* `distinctBy_sublist`: what is kept is in the order in which it came.
-/

namespace SelectorFinder.Inspection

open SelectorFinder.Selector

variable {α : Type}

/-- Heaviest first; equal weights keep their order. -/
def rankBy (weight : α → Weight) (xs : List α) : List α :=
  xs.mergeSort fun x y => ((weight x).compare (weight y)).isGE

/-- The first of each text, given the texts that have come before. -/
def distinctFrom (text : α → String) (seen : List String) : List α → List α
  | [] => []
  | x :: xs =>
    if seen.contains (text x) then distinctFrom text seen xs
    else x :: distinctFrom text (text x :: seen) xs

/-- The first of each text. -/
def distinctBy (text : α → String) (xs : List α) : List α :=
  distinctFrom text [] xs

/-- Ranking loses and repeats nothing. -/
theorem perm_rankBy (weight : α → Weight) (xs : List α) : (rankBy weight xs).Perm xs :=
  List.mergeSort_perm xs _

/-- What is kept is kept in its order. -/
theorem distinctFrom_sublist (text : α → String) (seen : List String) (xs : List α) :
    (distinctFrom text seen xs).Sublist xs := by
  induction xs generalizing seen with
  | nil => exact .slnil
  | cons x xs ih =>
    unfold distinctFrom
    split
    · exact (ih seen).cons x
    · exact (ih _).cons_cons x

/-- What is kept of a list is kept in its order. -/
theorem distinctBy_sublist (text : α → String) (xs : List α) : (distinctBy text xs).Sublist xs :=
  distinctFrom_sublist text [] xs

end SelectorFinder.Inspection
