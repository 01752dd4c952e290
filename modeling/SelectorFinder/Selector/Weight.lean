/-!
# Weights

A selector's weight has four components, compared from the first to the last: declarations
of a `style` attribute, ids, then classes with attributes and pseudo-classes, then type
names. For presentation the weights fall into five tiers.

## Main results

* `Weight.compare_eq_iff`: weights that compare equal are equal.
* `Weight.tier_veryLow_iff`: the lowest tier is that of the weights with type names only.
-/

namespace SelectorFinder.Selector

/-- The weight of a selector. -/
structure Weight where
  inline : Nat
  ids : Nat
  classes : Nat
  elements : Nat
  deriving DecidableEq, Repr, Inhabited

/-- How heavy a weight is, coarsely. -/
inductive Tier where
  | veryHigh
  | high
  | medium
  | low
  | veryLow
  deriving DecidableEq, Repr

namespace Weight

/-- The weight of what weighs nothing. -/
def zero : Weight := ⟨0, 0, 0, 0⟩

/-- The largest count that a component holds; larger counts are cut down to it. -/
def limit : Nat := 4294967295

/-- A count as a component. -/
def capped (n : Nat) : Nat := min n limit

/-- The component for two counts together. -/
def addCapped (m n : Nat) : Nat := capped (m + n)

/-- Weights compare component by component, the first difference decides. -/
def compare (a b : Weight) : Ordering :=
  (Ord.compare a.inline b.inline).then <|
    (Ord.compare a.ids b.ids).then <|
      (Ord.compare a.classes b.classes).then <|
        Ord.compare a.elements b.elements

/-- The tier of a weight: the highest component that is there decides, and with ids whether
there is more than one. -/
def tier (w : Weight) : Tier :=
  if w.inline > 0 then .veryHigh
  else if w.ids > 1 then .high
  else if w.ids = 1 then .medium
  else if w.classes > 0 then .low
  else .veryLow

/-- The written form, `(0,1,2,3)`. -/
def toText (w : Weight) : String :=
  s!"({w.inline},{w.ids},{w.classes},{w.elements})"

/-- Weights that compare equal are equal. -/
theorem compare_eq_iff {a b : Weight} : a.compare b = .eq ↔ a = b := by
  cases a; cases b
  simp [compare, Ordering.then_eq_eq]

/-- The lowest tier is that of weights with type names only. -/
theorem tier_veryLow_iff {w : Weight} :
    w.tier = .veryLow ↔ w.inline = 0 ∧ w.ids = 0 ∧ w.classes = 0 := by
  simp only [tier]
  repeat' split
  all_goals simp
  all_goals omega

end Weight

namespace Tier

/-- The tier in words. -/
def toText : Tier → String
  | veryHigh => "very high"
  | high => "high"
  | medium => "medium"
  | low => "low"
  | veryLow => "very low"

/-- The tier as a single hyphenated name. -/
def identifier : Tier → String
  | veryHigh => "very-high"
  | high => "high"
  | medium => "medium"
  | low => "low"
  | veryLow => "very-low"

end Tier

end SelectorFinder.Selector
