import Mathlib.Data.List.Induction
import SelectorFinder.Dom.Walk
import SelectorFinder.Proofs.Dom.TreeShape

/-!
# Element Siblings

The elements among the children of a node, and the closest element before one of them. In a
document whose links agree, the walk back along the previous siblings and the children list
of the parent tell of the same elements (`previousElement?_eq`).
-/

namespace SelectorFinder.Dom.Document

variable {d : Document} {n p : NodeId}

/-- An element is a node that has one. -/
theorem isElement_iff : d.isElement n ↔ ∃ e, d.element? n = some e := by
  simp [isElement, Option.isSome_iff_exists]

/-- The element children are the children that are elements. -/
theorem mem_elementChildren {c : NodeId} :
    c ∈ d.elementChildren n ↔ c ∈ d.children n ∧ d.isElement c := by
  simp [elementChildren]

/-- The parent element is the parent, provided that it is an element. -/
theorem parentElement?_eq_some_iff :
    d.parentElement? n = some p ↔ d.parent? n = some p ∧ d.isElement p := by
  simp [parentElement?, Option.filter_eq_some_iff]

/-! ### Ancestors through elements -/

/-- `p` is the parent element of `c`. -/
def IsParentElement (d : Document) (p c : NodeId) : Prop :=
  d.parentElement? c = some p

/-- `a` is reached from `n` by one step to the parent element or more. -/
def IsElementAncestor (d : Document) : NodeId → NodeId → Prop :=
  Relation.TransGen d.IsParentElement

/-- What is reached through elements is an ancestor. -/
theorem IsElementAncestor.isAncestor {a : NodeId} (h : d.IsElementAncestor a n) :
    d.IsAncestor a n := by
  have hparent : d.IsParentElement ≤ d.IsParent := fun _ _ hp =>
    (parentElement?_eq_some_iff.1 hp).1
  exact Relation.TransGen.mono hparent a n h

/-! ### The elements among the children -/

/-- What the walk back finds is an element. -/
theorem isElement_of_elementBackFrom {budget : Nat} {start : Option NodeId} {m : NodeId}
    (h : d.elementBackFrom budget start = some m) : d.isElement m := by
  induction budget generalizing start with
  | zero => simp [elementBackFrom] at h
  | succ budget ih =>
    cases start with
    | none => simp [elementBackFrom] at h
    | some n =>
      rw [elementBackFrom] at h
      split at h
      next hn => exact Option.some.inj h ▸ hn
      next => exact ih h

namespace LinksAgree

/-- No child element is listed twice. -/
theorem nodup_elementChildren (h : LinksAgree d) (p : NodeId) : (d.elementChildren p).Nodup :=
  (h.nodup p).filter _

/-- The parent of a child element is where it is listed. -/
theorem parent?_eq_of_mem_elementChildren (h : LinksAgree d) {c : NodeId}
    (hc : c ∈ d.elementChildren p) : d.parent? c = some p :=
  h.parent?_eq_iff.2 (mem_elementChildren.1 hc).1

/-- The parent element of an element child is the parent, provided that it is an element. -/
theorem parentElement?_of_mem (h : LinksAgree d) (hn : n ∈ d.elementChildren p) :
    d.parentElement? n = if d.isElement p then some p else none := by
  rw [parentElement?, h.parent?_eq_of_mem_elementChildren hn, Option.filter_some]

/-- An element is listed as a child of its parent. -/
theorem mem_elementChildren_of_parent? (h : LinksAgree d) (hp : d.parent? n = some p)
    (hn : d.isElement n) : n ∈ d.elementChildren p :=
  mem_elementChildren.2 ⟨h.parent?_eq_iff.1 hp, hn⟩

/-- **The walk back finds the last element** of a stretch of children that starts with the
first child; a budget of as many steps as there are nodes is enough. -/
theorem elementBackFrom_getLast? (h : LinksAgree d) {before after : List NodeId}
    (hs : d.children p = before ++ after) {budget : Nat} (hb : before.length ≤ budget) :
    d.elementBackFrom budget before.getLast? = (before.filter d.isElement).getLast? := by
  -- from the far end: each step of the walk takes the last node off the stretch
  induction before using List.reverseRecOn generalizing after budget with
  | nil => cases budget <;> rfl
  | append_singleton init last ih =>
    rw [List.length_append, List.length_singleton] at hb
    obtain ⟨budget, rfl⟩ : ∃ b, budget = b + 1 := ⟨budget - 1, by omega⟩
    have hs' : d.children p = init ++ last :: after := by simpa using hs
    rw [List.getLast?_concat, elementBackFrom]
    by_cases he : d.isElement last
    · simp [he]
    · rw [if_neg he, h.previous?_eq hs', ih hs' (by omega)]
      simp [he]

/-- **Both readings of the order agree**: the closest element before a node is the last
element among the children that stand before it. -/
theorem previousElement?_eq (h : LinksAgree d) {before after : List NodeId}
    (hs : d.children p = before ++ n :: after) :
    d.previousElement? n = (before.filter d.isElement).getLast? := by
  have hlen : before.length ≤ d.size := by
    have := h.length_children_le p
    rw [hs, List.length_append] at this
    omega
  rw [previousElement?, h.previous?_eq hs]
  exact h.elementBackFrom_getLast? hs hlen

/-- The element before an element child is the element child one index before it. -/
theorem previousElement?_of_getElem? (h : LinksAgree d) {i : Nat}
    (hi : (d.elementChildren p)[i]? = some n) :
    d.previousElement? n = if i = 0 then none else (d.elementChildren p)[i - 1]? := by
  obtain ⟨hm, hn⟩ := mem_elementChildren.1 (List.mem_of_getElem? hi)
  obtain ⟨before, after, hs⟩ := List.append_of_mem hm
  have hchildren : d.elementChildren p =
      before.filter d.isElement ++ n :: after.filter d.isElement := by
    rw [elementChildren, hs, List.filter_append, List.filter_cons_of_pos hn]
  have hlength : i = (before.filter d.isElement).length := by
    have hlt := (List.getElem?_eq_some_iff.1 hi).1
    refine (List.getElem?_inj hlt (h.nodup_elementChildren p)).1 (hi.trans ?_)
    simp [hchildren]
  rw [h.previousElement?_eq hs, List.getLast?_eq_getElem?, ← hlength, hchildren]
  split
  next hzero =>
    rw [hzero] at hlength
    simp [List.eq_nil_of_length_eq_zero hlength.symm]
  next hpos => rw [List.getElem?_append_left (by omega)]

/-- A node without a parent has no element before it. -/
theorem previousElement?_eq_none (h : LinksAgree d) (hn : d.parent? n = none) :
    d.previousElement? n = none := by
  rw [previousElement?, h.previous?_eq_none hn]
  cases d.size <;> rfl

/-- There is an element before a node exactly if one of the children before it is one. -/
theorem exists_previousElement?_iff (h : LinksAgree d) :
    (∃ m, d.previousElement? n = some m) ↔ ∃ p before after, d.parent? n = some p ∧
      d.children p = before ++ n :: after ∧ ∃ m ∈ before, d.isElement m := by
  constructor
  · rintro ⟨m, hm⟩
    cases hp : d.parent? n with
    | none => simp [h.previousElement?_eq_none hp] at hm
    | some p =>
      obtain ⟨before, after, hs⟩ := h.exists_split hp
      rw [h.previousElement?_eq hs] at hm
      obtain ⟨hb, he⟩ := List.mem_filter.1 (List.mem_of_getLast? hm)
      exact ⟨p, before, after, rfl, hs, m, hb, he⟩
  · rintro ⟨p, before, after, -, hs, m, hb, he⟩
    rw [h.previousElement?_eq hs]
    exact Option.isSome_iff_exists.1 (List.getLast?_isSome.2
      (List.ne_nil_of_mem (List.mem_filter.2 ⟨hb, he⟩)))

end LinksAgree

end SelectorFinder.Dom.Document
