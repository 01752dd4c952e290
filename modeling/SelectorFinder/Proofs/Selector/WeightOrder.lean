import Mathlib.Data.Prod.Lex
import SelectorFinder.Selector.Weight

/-!
# The Order of Weights

Weights are ordered lexicographically, `inline` before `ids` before `classes` before
`elements`. The comparison used for ranking decides this order (`isGE_compare_iff`), and the
tiers of presentation never go against it (`importance_mono`).
-/

namespace SelectorFinder.Selector

namespace Weight

/-- The components of a weight, the most important first. -/
def key (w : Weight) : ℕ ×ₗ ℕ ×ₗ ℕ ×ₗ ℕ :=
  toLex (w.inline, toLex (w.ids, toLex (w.classes, w.elements)))

/-- A weight is told by its key. -/
theorem key_injective : Function.Injective key := by
  rintro ⟨i, a, b, c⟩ ⟨i', a', b', c'⟩ h
  simpa [key] using h

/-- **The lexicographic order** of weights. -/
instance : LinearOrder Weight :=
  LinearOrder.lift' key key_injective

/-- The order, written out. -/
theorem le_iff {a b : Weight} :
    a ≤ b ↔ a.inline < b.inline ∨ a.inline = b.inline ∧ (a.ids < b.ids ∨ a.ids = b.ids ∧
      (a.classes < b.classes ∨ a.classes = b.classes ∧ a.elements ≤ b.elements)) := by
  change a.key ≤ b.key ↔ _
  simp [key, Prod.Lex.toLex_le_toLex]

/-- Nothing weighs less than what weighs nothing. -/
theorem zero_le (w : Weight) : zero ≤ w := by
  simp only [le_iff, zero]
  omega

/-- **One more of the classes** makes a weight heavier, unless there are as many as can be. -/
theorem lt_add_class {w : Weight} (h : w.classes < limit) :
    w < { w with classes := addCapped w.classes 1 } := by
  simp only [← not_le, le_iff, addCapped, capped]
  omega

/-- A first difference decides, and what follows it only without one. -/
theorem isGE_then_iff {o o' : Ordering} :
    (o.then o').isGE ↔ o = .gt ∨ o = .eq ∧ o'.isGE := by
  cases o <;> simp

/-- **The comparison decides the order.** -/
theorem isGE_compare_iff {a b : Weight} : (a.compare b).isGE ↔ b ≤ a := by
  simp only [compare, isGE_then_iff, Nat.compare_eq_gt, Nat.compare_eq_eq, Nat.isGE_compare,
    le_iff]
  omega

end Weight

namespace Tier

/-- How important a tier is: the higher, the more. -/
def importance : Tier → ℕ
  | veryHigh => 4
  | high => 3
  | medium => 2
  | low => 1
  | veryLow => 0

end Tier

/-- **A heavier weight is never of a less important tier.** -/
theorem Weight.importance_mono {a b : Weight} (h : a ≤ b) :
    a.tier.importance ≤ b.tier.importance := by
  rw [Weight.le_iff] at h
  simp only [Weight.tier]
  split_ifs <;> simp only [Tier.importance] <;> omega

end SelectorFinder.Selector
