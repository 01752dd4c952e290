import Mathlib.Data.List.Nodup
import SelectorFinder.Proofs.Dom.Building

/-!
# Subtrees and Document Order

The subtree of a node is the node with all that lies below it. In a tree-shaped document the
subtrees of two children of one node have nothing in common, so for two different nodes it is
settled which one comes first: one of them lies below the other, or they lie in the subtrees of
two children of one node, of which one is listed first.

## Main results

* `TreeShaped.induction_children`: what passes from the children of a node to the node holds of
  every node; `TreeShaped.induction_budgets` does the same for two budgets.
* `TreeShaped.eq_of_inSubtree`: no two children of a node have a node of their subtrees in
  common.
* `TreeShaped.precedes_asymm`: of two nodes one at most comes first.
-/

namespace SelectorFinder.Dom.Document

variable {d : Document} {a b n p q x y : NodeId} {k : Nat}

/-- **Induction from below**: a property that a node has if all its children have it is one of
every node. -/
theorem TreeShaped.induction_children (h : TreeShaped d) {P : NodeId → Prop}
    (step : ∀ n, (∀ c ∈ d.children n, P c) → P n) (n : NodeId) : P n := by
  -- by the number of levels for which there is room below the node
  suffices hlevels : ∀ levels k n, d.HasDepth n k → d.size ≤ k + levels → P n by
    obtain ⟨k, hk⟩ := h.exists_hasDepth n
    exact hlevels d.size k n hk (Nat.le_add_left _ _)
  intro levels
  induction levels with
  | zero =>
    intro k n hn hk
    obtain ⟨j, hj, hn'⟩ := h.exists_hasDepth_lt n
    have := hn.unique hn'
    omega
  | succ levels ih =>
    intro k n hn hk
    refine step n fun c hc => ih (k + 1) c ?_ (by omega)
    exact .down (h.linksAgree.parent?_eq_iff.2 hc) hn

/-- **Induction over two budgets**: what holds of a node under two budgets, if it holds of all its
children under two that are smaller by one, holds of every node under any two budgets for as many
levels as there may be below the node. -/
theorem TreeShaped.induction_budgets (h : TreeShaped d) {P : Nat → Nat → NodeId → Prop}
    (step : ∀ budget budget' n, (∀ c ∈ d.children n, P budget budget' c) →
      P (budget + 1) (budget' + 1) n)
    {budget budget' : Nat} (hk : d.HasDepth n k) (hn : n < d.size) (hb : d.size ≤ k + budget)
    (hb' : d.size ≤ k + budget') : P budget budget' n := by
  have hlt := hk.lt_size h.built.linked hn
  induction budget generalizing budget' n k with
  | zero => omega
  | succ budget ih =>
    obtain ⟨budget', rfl⟩ : ∃ b, budget' = b + 1 := ⟨budget' - 1, by omega⟩
    refine step budget budget' n fun c hc => ?_
    have hkc : d.HasDepth c (k + 1) := .down (h.linksAgree.parent?_eq_iff.2 hc) hk
    have hc' := h.linksAgree.lt_size hc
    exact ih hkc hc' (by omega) (by omega) (hkc.lt_size h.built.linked hc')

/-! ### Subtrees -/

/-- **The subtree of a node**: the node itself and the nodes of which it is an ancestor. -/
def InSubtree (d : Document) : NodeId → NodeId → Prop :=
  Relation.ReflTransGen d.IsParent

/-- What lies below a node is in its subtree. -/
theorem IsAncestor.inSubtree (h : d.IsAncestor a b) : d.InSubtree a b :=
  Relation.TransGen.to_reflTransGen h

/-- A subtree has its own node and all that lies below. -/
theorem inSubtree_iff : d.InSubtree a b ↔ b = a ∨ d.IsAncestor a b :=
  Relation.reflTransGen_iff_eq_or_transGen

/-- Of two nodes whose subtrees have a node in common, one is in the subtree of the other. -/
theorem InSubtree.total (hx : d.InSubtree x a) (hy : d.InSubtree y a) :
    d.InSubtree x y ∨ d.InSubtree y x := by
  have hunique : Relator.RightUnique (Function.swap d.IsParent) := by
    intro c p q hp hq
    exact Option.some.inj (Eq.trans (Eq.symm hp) hq)
  -- the way up from the common node leads through both
  rcases Relation.ReflTransGen.total_of_right_unique hunique (Relation.reflTransGen_swap.2 hx)
    (Relation.reflTransGen_swap.2 hy) with hup | hup
  · exact .inr (Relation.reflTransGen_swap.1 hup)
  · exact .inl (Relation.reflTransGen_swap.1 hup)

/-- Equally deep nodes whose subtrees have a node in common are one node. -/
theorem InSubtree.eq_of_hasDepth (hx : d.InSubtree x a) (hy : d.InSubtree y a)
    (hkx : d.HasDepth x k) (hky : d.HasDepth y k) : x = y := by
  have hbelow : ∀ {m l}, d.HasDepth m k → d.HasDepth l k → d.InSubtree m l → m = l := by
    intro m l hm hl hml
    rcases inSubtree_iff.1 hml with rfl | ha
    · rfl
    · obtain ⟨j, hj, hm'⟩ := hl.of_isAncestor ha
      exact absurd (hm.unique hm') (Nat.ne_of_gt hj)
  rcases hx.total hy with hxy | hyx
  · exact hbelow hkx hky hxy
  · exact (hbelow hky hkx hyx).symm

/-- What lies below a node lies in the subtree of one of its children. -/
theorem IsAncestor.exists_child (h : d.IsAncestor a b) :
    ∃ c, d.IsParent a c ∧ d.InSubtree c b :=
  Relation.TransGen.head'_iff.1 h

namespace TreeShaped

/-- No node lies below itself. -/
theorem not_isAncestor_self (h : TreeShaped d) : ¬ d.IsAncestor n n := by
  obtain ⟨k, hk⟩ := h.exists_hasDepth n
  exact hk.not_isAncestor

/-- Nothing that lies below a node has the node in its subtree. -/
theorem not_inSubtree_of_isAncestor (h : TreeShaped d) (ha : d.IsAncestor a b) :
    ¬ d.InSubtree b a := fun hb =>
  h.not_isAncestor_self (ha.trans_left hb)

/-- No two nodes are in each other's subtrees. -/
theorem inSubtree_antisymm (h : TreeShaped d) (hab : d.InSubtree a b) (hba : d.InSubtree b a) :
    a = b := by
  rcases inSubtree_iff.1 hab with rfl | ha
  · rfl
  · exact absurd hba (h.not_inSubtree_of_isAncestor ha)

/-- **The subtrees of two children of one node have nothing in common.** -/
theorem eq_of_inSubtree (h : TreeShaped d) (hx : d.IsParent p x) (hy : d.IsParent p y)
    (hxa : d.InSubtree x a) (hya : d.InSubtree y a) : x = y := by
  obtain ⟨k, hk⟩ := h.exists_hasDepth p
  exact hxa.eq_of_hasDepth hya (.down hx hk) (.down hy hk)

end TreeShaped

/-! ### Document order -/

/-- **Document order**: a node comes before all that lies below it, and what lies in the subtree
of a child comes before what lies in that of a child listed later by the same parent. -/
inductive Precedes (d : Document) : NodeId → NodeId → Prop
  | above {a b : NodeId} : d.IsAncestor a b → Precedes d a b
  | aside {p x y a b : NodeId} : d.IsParent p x → d.IsParent p y →
      (d.children p).idxOf x < (d.children p).idxOf y →
      d.InSubtree x a → d.InSubtree y b → Precedes d a b

namespace TreeShaped

/-- Two nodes in the subtrees of two children of one node have nothing in common that does not
lie above this node as well. -/
theorem inSubtree_of_aside (h : TreeShaped d) {z : NodeId} (hx : d.IsParent p x)
    (hy : d.IsParent p y) (hne : x ≠ y) (hxa : d.InSubtree x a) (hyb : d.InSubtree y b)
    (hza : d.InSubtree z a) (hzb : d.InSubtree z b) : d.InSubtree z p := by
  rcases hza.total (.head hx hxa) with hzp | hpz
  · exact hzp
  rcases inSubtree_iff.1 hpz with rfl | ha
  · exact .refl
  · obtain ⟨c, hc, hcz⟩ := ha.exists_child
    have hcx := h.eq_of_inSubtree hc hx (hcz.trans hza) hxa
    have hcy := h.eq_of_inSubtree hc hy (hcz.trans hzb) hyb
    exact absurd (hcx.symm.trans hcy) hne

/-- A node is not beside what lies below it. -/
theorem not_isAncestor_of_aside (h : TreeShaped d) (hx : d.IsParent p x) (hy : d.IsParent p y)
    (hne : x ≠ y) (hxa : d.InSubtree x a) (hyb : d.InSubtree y b) : ¬ d.IsAncestor a b := by
  intro hab
  have hap := h.inSubtree_of_aside hx hy hne hxa hyb .refl hab.inSubtree
  exact h.not_inSubtree_of_isAncestor (.head' hx hxa) hap

/-- **Of two nodes one at most comes first.** -/
theorem precedes_asymm (h : TreeShaped d) (hab : d.Precedes a b) : ¬ d.Precedes b a := by
  have hne : ∀ {p x y}, (d.children p).idxOf x < (d.children p).idxOf y → x ≠ y := by
    rintro p x y hlt rfl
    exact Nat.lt_irrefl _ hlt
  intro hba
  cases hab with
  | above hab =>
    cases hba with
    | above hba => exact h.not_isAncestor_self (hab.trans hba)
    | aside hx hy hlt hxb hya =>
      exact h.not_isAncestor_of_aside hy hx (Ne.symm (hne hlt)) hya hxb hab
  | @aside p x y _ _ hx hy hlt hxa hyb =>
    cases hba with
    | above hba => exact h.not_isAncestor_of_aside hy hx (Ne.symm (hne hlt)) hyb hxa hba
    | @aside q x' y' _ _ hx' hy' hlt' hxb hya =>
      -- each of the two parents lies above both nodes, so it is the same parent twice
      have hpq := h.inSubtree_of_aside hy' hx' (Ne.symm (hne hlt')) hya hxb
        (.head hx hxa) (.head hy hyb)
      have hqp := h.inSubtree_of_aside hx hy (hne hlt) hxa hyb (.head hy' hya) (.head hx' hxb)
      obtain rfl := h.inSubtree_antisymm hpq hqp
      obtain rfl := h.eq_of_inSubtree hx hy' hxa hya
      obtain rfl := h.eq_of_inSubtree hy hx' hyb hxb
      exact Nat.lt_asymm hlt hlt'

/-- The places in a list of children are in order. -/
theorem pairwise_idxOf_children (h : TreeShaped d) (p : NodeId) :
    (d.children p).Pairwise fun x y => (d.children p).idxOf x < (d.children p).idxOf y := by
  refine List.pairwise_iff_getElem.2 fun i j hi hj hij => ?_
  rw [(h.linksAgree.nodup p).idxOf_getElem, (h.linksAgree.nodup p).idxOf_getElem]
  exact hij

/-- In a list in which each node comes before those listed later, document order tells the
places. -/
theorem idxOf_lt_iff_precedes (h : TreeShaped d) {ns : List NodeId}
    (hns : ns.Pairwise d.Precedes) (ha : a ∈ ns) (hb : b ∈ ns) :
    ns.idxOf a < ns.idxOf b ↔ d.Precedes a b := by
  have hforward : ∀ {l m}, l ∈ ns → m ∈ ns → ns.idxOf l < ns.idxOf m → d.Precedes l m := by
    intro l m hl hm hlt
    have := List.pairwise_iff_getElem.1 hns _ _ (List.idxOf_lt_length_of_mem hl)
      (List.idxOf_lt_length_of_mem hm) hlt
    rwa [List.getElem_idxOf, List.getElem_idxOf] at this
  refine ⟨hforward ha hb, fun hab => ?_⟩
  rcases Nat.lt_trichotomy (ns.idxOf a) (ns.idxOf b) with hlt | heq | hgt
  · exact hlt
  · obtain rfl := (List.idxOf_inj ha).1 heq
    exact absurd hab (h.precedes_asymm hab)
  · exact absurd (hforward hb ha hgt) (h.precedes_asymm hab)

end TreeShaped

end SelectorFinder.Dom.Document
