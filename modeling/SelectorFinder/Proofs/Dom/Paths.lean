import Mathlib.Data.List.Nodup
import SelectorFinder.Dom.Walk
import SelectorFinder.Proofs.Dom.Building
import SelectorFinder.Proofs.Dom.Siblings

/-!
# Paths

A path of indices leads down from a node through element children. In a tree-shaped document
it is determined by where it leads, the walk up from there finds it again, and the elements
below a node are those to which a path leads, each once.

## Main results

* `follow_injective`: different paths lead to different nodes.
* `path?_eq_some_iff`: the path of a node is the one that leads to it.
* `mem_descendantElements_iff`, `nodup_cons_descendantElements`: the elements below a node.
-/

namespace SelectorFinder.Dom.Document

variable {d : Document} {n m top : NodeId} {p q : List Nat} {i k : Nat}

/-! ### Walking down -/

/-- A path is followed in two stretches. -/
theorem follow_append (d : Document) (n : NodeId) (p q : List Nat) :
    d.follow n (p ++ q) = (d.follow n p).bind fun m => d.follow m q := by
  induction p generalizing n with
  | nil => rfl
  | cons i p ih =>
    rw [List.cons_append, follow, follow]
    cases (d.elementChildren n)[i]? with
    | none => rfl
    | some c => exact ih c

/-- A path is followed from its first step on. -/
theorem follow_cons_eq_some_iff :
    d.follow n (i :: p) = some m ↔
      ∃ c, (d.elementChildren n)[i]? = some c ∧ d.follow c p = some m :=
  Option.bind_eq_some_iff

/-- A path is followed up to its last step. -/
theorem follow_concat_eq_some_iff :
    d.follow n (p ++ [i]) = some m ↔
      ∃ l, d.follow n p = some l ∧ (d.elementChildren l)[i]? = some m := by
  rw [follow_append, Option.bind_eq_some_iff]
  simp [follow]

/-- From an element a path leads to elements only. -/
theorem isElement_of_follow (h : d.follow n p = some m) (hn : d.isElement n) : d.isElement m := by
  induction p generalizing n with
  | nil => exact Option.some.inj h ▸ hn
  | cons i p ih =>
    obtain ⟨c, hc, hm⟩ := follow_cons_eq_some_iff.1 h
    exact ih hm (mem_elementChildren.1 (List.mem_of_getElem? hc)).2

/-! ### Paths and depths -/

namespace LinksAgree

/-- An element child is one step deeper. -/
theorem hasDepth_elementChild (hl : LinksAgree d) (hn : d.HasDepth n k)
    (hc : m ∈ d.elementChildren n) : d.HasDepth m (k + 1) :=
  .down (hl.parent?_eq_of_mem_elementChildren hc) hn

/-- A path leads as many steps deeper as it has indices. -/
theorem hasDepth_follow (hl : LinksAgree d) (hn : d.HasDepth n k) (h : d.follow n p = some m) :
    d.HasDepth m (k + p.length) := by
  induction p generalizing n k with
  | nil => exact Option.some.inj h ▸ hn
  | cons i p ih =>
    obtain ⟨c, hc, hm⟩ := follow_cons_eq_some_iff.1 h
    have hdepth := ih (hl.hasDepth_elementChild hn (List.mem_of_getElem? hc)) hm
    rwa [List.length_cons, Nat.add_comm p.length, ← Nat.add_assoc]

/-- **Different paths lead to different nodes.** -/
theorem follow_injective (hl : LinksAgree d) (hn : d.HasDepth n k) (hp : d.follow n p = some m)
    (hq : d.follow n q = some m) : p = q := by
  have hlength : p.length = q.length := by
    have := (hl.hasDepth_follow hn hp).unique (hl.hasDepth_follow hn hq)
    omega
  -- from the far end: the last steps come from the parent, and the index is a place in its list
  induction p using List.reverseRecOn generalizing m q with
  | nil => exact (List.eq_nil_of_length_eq_zero hlength.symm).symm
  | append_singleton p i ih =>
    rcases List.eq_nil_or_concat' q with rfl | ⟨q, j, rfl⟩
    · simp at hlength
    obtain ⟨l, hpl, hi⟩ := follow_concat_eq_some_iff.1 hp
    obtain ⟨l', hql, hj⟩ := follow_concat_eq_some_iff.1 hq
    have hparent := hl.parent?_eq_of_mem_elementChildren (List.mem_of_getElem? hi)
    have hparent' := hl.parent?_eq_of_mem_elementChildren (List.mem_of_getElem? hj)
    obtain rfl : l = l' := Option.some.inj (hparent.symm.trans hparent')
    have hlt := (List.getElem?_eq_some_iff.1 hi).1
    have hij : i = j :=
      (List.getElem?_inj hlt (hl.nodup_elementChildren l)).1 (hi.trans hj.symm)
    rw [ih hpl hql (by simpa using hlength), hij]

/-- A path that leads back to its start is empty. -/
theorem eq_nil_of_follow_self (hl : LinksAgree d) (hn : d.HasDepth n k)
    (h : d.follow n p = some n) : p = [] :=
  hl.follow_injective hn h rfl

/-! ### Walking up -/

/-- An element child is found at its place. -/
theorem idxOf?_elementChildren (hl : LinksAgree d) (hi : (d.elementChildren n)[i]? = some m) :
    (d.elementChildren n).idxOf? m = some i := by
  obtain ⟨hlt, hget⟩ := List.getElem?_eq_some_iff.1 hi
  refine List.idxOf?_eq_some_iff.2 ⟨hlt, hget, fun j hj hm => ?_⟩
  have hji := (hl.nodup_elementChildren n).getElem_inj_iff.1 (hm.trans hget.symm)
  exact Nat.ne_of_lt hj hji

/-- **The walk up finds the path** that leads from `top` to the node, if its budget is not
used up. -/
theorem pathDown_of_follow (hl : LinksAgree d) (hdepth : d.HasDepth top k)
    (htop : d.isElement top) (h : d.follow top p = some n) {budget : Nat}
    (hb : p.length < budget) (below : List Nat) :
    d.pathDown top budget n below = some (p ++ below) := by
  induction p using List.reverseRecOn generalizing n budget below with
  | nil =>
    obtain rfl : top = n := Option.some.inj h
    obtain ⟨budget, rfl⟩ : ∃ b, budget = b + 1 := ⟨budget - 1, by simp at hb; omega⟩
    simp [pathDown]
  | append_singleton p i ih =>
    rw [List.length_append, List.length_singleton] at hb
    obtain ⟨budget, rfl⟩ : ∃ b, budget = b + 1 := ⟨budget - 1, by omega⟩
    have hne : n ≠ top := by
      rintro rfl
      simpa using hl.eq_nil_of_follow_self hdepth h
    obtain ⟨l, hpl, hi⟩ := follow_concat_eq_some_iff.1 h
    have hparent : d.parentElement? n = some l := parentElement?_eq_some_iff.2
      ⟨hl.parent?_eq_of_mem_elementChildren (List.mem_of_getElem? hi), isElement_of_follow hpl htop⟩
    rw [pathDown, if_neg hne, hparent]
    have hrest := ih hpl (Nat.lt_of_succ_lt_succ hb) (i :: below)
    simpa [hl.idxOf?_elementChildren hi] using hrest

end LinksAgree

/-- What the walk up collects leads back down, in any document. -/
theorem follow_of_pathDown {budget : Nat} {below : List Nat}
    (h : d.pathDown top budget n below = some p) :
    ∃ q, p = q ++ below ∧ d.follow top q = some n := by
  induction budget generalizing n below with
  | zero => simp [pathDown] at h
  | succ budget ih =>
    rw [pathDown] at h
    split at h
    next htop =>
      obtain rfl := Option.some.inj h
      exact ⟨[], rfl, htop ▸ rfl⟩
    next =>
      simp only [Option.bind_eq_bind, Option.bind_eq_some_iff] at h
      obtain ⟨l, hl, i, hi, h⟩ := h
      obtain ⟨q, rfl, hq⟩ := ih h
      obtain ⟨hlt, hget, -⟩ := List.idxOf?_eq_some_iff.1 hi
      refine ⟨q ++ [i], by simp, follow_concat_eq_some_iff.2 ⟨l, hq, ?_⟩⟩
      exact List.getElem?_eq_some_iff.2 ⟨hlt, hget⟩

/-- **The path of a node leads back to it**, in any document. -/
theorem elementAt?_of_path? (h : d.path? n = some p) : d.elementAt? p = some n := by
  obtain ⟨top, htop, hp⟩ := Option.bind_eq_some_iff.1 h
  obtain ⟨q, rfl, hq⟩ := follow_of_pathDown hp
  exact Option.bind_eq_some_iff.2 ⟨top, htop, by rwa [List.append_nil]⟩

/-! ### The elements below a node -/

/-- The elements that a listing down to a number of levels holds: those to which a path of at
most as many indices leads. -/
theorem mem_elementsBelow_iff {budget : Nat} :
    m ∈ d.elementsBelow budget n ↔
      ∃ p, p ≠ [] ∧ p.length ≤ budget ∧ d.follow n p = some m := by
  induction budget generalizing n with
  | zero =>
    simp only [elementsBelow, List.not_mem_nil, false_iff]
    rintro ⟨p, hp, hlength, -⟩
    exact hp (List.eq_nil_of_length_eq_zero (Nat.le_zero.1 hlength))
  | succ budget ih =>
    simp only [elementsBelow, List.mem_flatMap, List.mem_cons, ih]
    constructor
    · rintro ⟨c, hc, rfl | ⟨p, -, hlength, hm⟩⟩
      · obtain ⟨i, hi⟩ := List.mem_iff_getElem?.1 hc
        exact ⟨[i], by simp, by simp, follow_cons_eq_some_iff.2 ⟨m, hi, rfl⟩⟩
      · obtain ⟨i, hi⟩ := List.mem_iff_getElem?.1 hc
        exact ⟨i :: p, by simp, by simpa using hlength, follow_cons_eq_some_iff.2 ⟨c, hi, hm⟩⟩
    · rintro ⟨p, hne, hlength, hm⟩
      obtain ⟨i, p, rfl⟩ := List.exists_cons_of_ne_nil hne
      obtain ⟨c, hc, hm⟩ := follow_cons_eq_some_iff.1 hm
      refine ⟨c, List.mem_of_getElem? hc, ?_⟩
      by_cases hp : p = []
      · subst hp
        exact .inl (Option.some.inj hm).symm
      · exact .inr ⟨p, hp, by simpa using hlength, hm⟩

/-- A path leads to what is listed with a node or below it. -/
theorem exists_follow_of_mem_cons {c : NodeId} {budget : Nat}
    (hm : m ∈ c :: d.elementsBelow budget c) : ∃ p, d.follow c p = some m := by
  rcases List.mem_cons.1 hm with rfl | hm
  · exact ⟨[], rfl⟩
  · obtain ⟨p, -, -, hp⟩ := mem_elementsBelow_iff.1 hm
    exact ⟨p, hp⟩

/-- The document element is a child of the document node and an element. -/
theorem mem_elementChildren_of_documentElement? (htop : d.documentElement? = some top) :
    top ∈ d.elementChildren root :=
  List.mem_of_head? htop

namespace TreeShaped

/-- The depth of a node to which a path leads is below the number of nodes. -/
theorem length_lt_size (h : TreeShaped d) (hn : d.HasDepth n k) (hsize : n < d.size)
    (hm : d.follow n p = some m) : k + p.length < d.size := by
  refine (h.linksAgree.hasDepth_follow hn hm).lt_size h.built.linked ?_
  rcases List.eq_nil_or_concat' p with rfl | ⟨p, i, rfl⟩
  · exact Option.some.inj hm ▸ hsize
  · obtain ⟨l, -, hi⟩ := follow_concat_eq_some_iff.1 hm
    exact h.linksAgree.lt_size (mem_elementChildren.1 (List.mem_of_getElem? hi)).1

/-- **The elements below a node** are those to which a path leads that is not empty. -/
theorem mem_descendantElements_iff (h : TreeShaped d) (hsize : n < d.size) :
    m ∈ d.descendantElements n ↔ ∃ p, p ≠ [] ∧ d.follow n p = some m := by
  rw [descendantElements, mem_elementsBelow_iff]
  constructor
  · rintro ⟨p, hp, -, hm⟩
    exact ⟨p, hp, hm⟩
  · rintro ⟨p, hp, hm⟩
    obtain ⟨k, hk⟩ := h.exists_hasDepth n
    have hlt := h.length_lt_size hk hsize hm
    exact ⟨p, hp, by omega, hm⟩

/-- **No element is listed twice**, and no node is listed below itself. -/
theorem nodup_cons_elementsBelow (h : TreeShaped d) (n : NodeId) (budget : Nat) :
    (n :: d.elementsBelow budget n).Nodup := by
  have hl := h.linksAgree
  induction budget generalizing n with
  | zero => simp [elementsBelow]
  | succ budget ih =>
    obtain ⟨k, hk⟩ := h.exists_hasDepth n
    refine List.nodup_cons.2 ⟨fun hn => ?self, List.nodup_flatMap.2 ⟨fun c _ => ih c, ?apart⟩⟩
    case self =>
      obtain ⟨p, hp, -, hself⟩ := mem_elementsBelow_iff.1 hn
      exact hp (hl.eq_nil_of_follow_self hk hself)
    case apart =>
      refine (hl.nodup_elementChildren n).imp_of_mem fun {a b} ha hb hab m hma hmb => hab ?_
      obtain ⟨i, hi⟩ := List.mem_iff_getElem?.1 ha
      obtain ⟨j, hj⟩ := List.mem_iff_getElem?.1 hb
      obtain ⟨p, hp⟩ := exists_follow_of_mem_cons hma
      obtain ⟨q, hq⟩ := exists_follow_of_mem_cons hmb
      have hpq : i :: p = j :: q := hl.follow_injective hk
        (follow_cons_eq_some_iff.2 ⟨a, hi, hp⟩) (follow_cons_eq_some_iff.2 ⟨b, hj, hq⟩)
      obtain rfl := (List.cons.inj hpq).1
      exact Option.some.inj (hi.symm.trans hj)

/-- A node and the elements below it are listed once each. -/
theorem nodup_cons_descendantElements (h : TreeShaped d) (n : NodeId) :
    (n :: d.descendantElements n).Nodup :=
  h.nodup_cons_elementsBelow n d.size

/-! ### The path of a node -/

/-- **The path of a node is the one that leads to it** from the document element. -/
theorem path?_eq_some_iff (h : TreeShaped d) : d.path? n = some p ↔ d.elementAt? p = some n := by
  refine ⟨elementAt?_of_path?, fun hn => ?_⟩
  obtain ⟨top, htop, hp⟩ := Option.bind_eq_some_iff.1 hn
  obtain ⟨k, hk⟩ := h.exists_hasDepth top
  obtain ⟨hchild, helement⟩ :=
    mem_elementChildren.1 (mem_elementChildren_of_documentElement? htop)
  have hlt := h.length_lt_size hk (h.linksAgree.lt_size hchild) hp
  have hup := h.linksAgree.pathDown_of_follow hk helement hp (show p.length < d.size by omega) []
  exact Option.bind_eq_some_iff.2 ⟨top, htop, by rw [hup, List.append_nil]⟩

end TreeShaped

end SelectorFinder.Dom.Document
