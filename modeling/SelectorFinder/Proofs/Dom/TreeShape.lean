import Mathlib.Data.List.Nodup
import Mathlib.Data.List.Perm.Subperm
import Mathlib.Logic.Relation
import SelectorFinder.Dom.Document

/-!
# Tree-Shaped Documents

A document is a tree when it was built by making nodes and by appending each of them at most
once, never the document node, and never to itself or to a node below it. `TreeShaped` is
this history as an inductive predicate; the invariant drawn from it is `LinksAgree`: parents,
children lists and previous siblings tell of one and the same order.

## Main results

* `node?_create`, `node?_link`: what one step of building changes, and what it leaves alone.
* `TreeShaped.linksAgree`: the links of a tree-shaped document agree.
* `LinksAgree.exists_split`: a node stands at one place among the children of its parent.
-/

namespace SelectorFinder.Dom

namespace Document

/-- Different numbers below a bound are no more than the bound. -/
theorem length_le_of_nodup {ns : List NodeId} {bound : Nat} (hnodup : ns.Nodup)
    (hlt : ∀ n ∈ ns, n < bound) : ns.length ≤ bound := by
  have hsub : ns ⊆ List.range bound := fun n hn => List.mem_range.2 (hlt n hn)
  simpa using (hnodup.subperm hsub).length_le

/-! ### One step of building -/

/-- **Making a node** leaves every node as it was and adds an unattached one. -/
theorem node?_create (d : Document) (kind : NodeKind) (n : NodeId) :
    (d.create kind).1.node? n =
      if n = d.size then some (Node.unattached kind) else d.node? n := by
  rw [create, node?, node?, size, Array.getElem?_push]

/-- **Appending** changes no node's kind; it enters the child at the end of the parent's list
and writes parent and previous sibling on the child. -/
theorem node?_link (d : Document) (parent child n : NodeId) :
    (d.link parent child).node? n = (d.node? n).map fun node =>
      { kind := node.kind
        parent := if n = child then some parent else node.parent
        previous := if n = child then (d.children parent).getLast? else node.previous
        children := if n = parent then node.children ++ [child] else node.children } := by
  simp only [link, node?, Array.getElem?_modify, eq_comm (a := n)]
  by_cases hc : child = n <;> by_cases hp : parent = n <;>
    cases d.nodes[n]? <;> simp [hc, hp]

/-- A node is there exactly if its number is below the size. -/
theorem node?_eq_none_iff {d : Document} {n : NodeId} : d.node? n = none ↔ d.size ≤ n :=
  Array.getElem?_eq_none_iff

/-- The number of nodes is not a node. -/
theorem node?_size (d : Document) : d.node? d.size = none :=
  node?_eq_none_iff.2 (Nat.le_refl _)

/-- A number without a node is not that of a node. -/
theorem ne_of_node?_eq_none {d : Document} {m n : NodeId} (h : d.node? n = none)
    (hm : m < d.size) : n ≠ m := by
  rintro rfl
  exact absurd (node?_eq_none_iff.1 h) (Nat.not_le.2 hm)

section Create

variable (d : Document) (kind : NodeKind) (n : NodeId)

/-- A new node changes no list of children. -/
@[simp] theorem children_create : (d.create kind).1.children n = d.children n := by
  rw [children, children, node?_create]
  by_cases h : n = d.size
  · subst h
    simp [node?_size, Node.unattached]
  · rw [if_neg h]

/-- A new node changes no parent. -/
@[simp] theorem parent?_create : (d.create kind).1.parent? n = d.parent? n := by
  rw [parent?, parent?, node?_create]
  by_cases h : n = d.size
  · subst h
    simp [node?_size, Node.unattached]
  · rw [if_neg h]

/-- A new node changes nothing about which node stands before another. -/
@[simp] theorem previous?_create : (d.create kind).1.previous? n = d.previous? n := by
  rw [previous?, previous?, node?_create]
  by_cases h : n = d.size
  · subst h
    simp [node?_size, Node.unattached]
  · rw [if_neg h]

end Create

section Link

variable {d : Document} {parent child : NodeId}

/-- A link changes one list of children: it gets longer at the end. -/
theorem children_link (hp : parent < d.size) (n : NodeId) :
    (d.link parent child).children n =
      if n = parent then d.children n ++ [child] else d.children n := by
  rw [children, children, node?_link]
  cases h : d.node? n with
  | none => simp [ne_of_node?_eq_none h hp]
  | some node => simp

/-- A link changes the parent of one node. -/
theorem parent?_link (hc : child < d.size) (n : NodeId) :
    (d.link parent child).parent? n = if n = child then some parent else d.parent? n := by
  rw [parent?, parent?, node?_link]
  cases h : d.node? n with
  | none => simp [ne_of_node?_eq_none h hc]
  | some node => simp

/-- A linked node stands behind what was the last child. -/
theorem previous?_link (hc : child < d.size) (n : NodeId) :
    (d.link parent child).previous? n =
      if n = child then (d.children parent).getLast? else d.previous? n := by
  rw [previous?, previous?, node?_link]
  cases h : d.node? n with
  | none => simp [ne_of_node?_eq_none h hc]
  | some node => simp

end Link

/-! ### Ancestors -/

/-- `p` is the parent of `c`. -/
def IsParent (d : Document) (p c : NodeId) : Prop :=
  d.parent? c = some p

/-- `a` is reached from `n` by one step to the parent or more. -/
def IsAncestor (d : Document) : NodeId → NodeId → Prop :=
  Relation.TransGen d.IsParent

/-! ### The shape of a tree -/

/-- **Tree-shaped documents**: those built by making nodes and appending each one at most
once, to a node that is not the node itself and not below it. -/
inductive TreeShaped : Document → Prop
  | empty : TreeShaped Document.empty
  | create {d : Document} (kind : NodeKind) :
      TreeShaped d → kind ≠ .document → TreeShaped (d.create kind).1
  | append {d d' : Document} {parent child : NodeId} :
      TreeShaped d → d.append? parent child = some d' →
      child ≠ root → d.parent? child = none →
      child ≠ parent → ¬ d.IsAncestor child parent → TreeShaped d'

/-- **The links agree**: the parent of a node is the one that lists it, it lists it once, and
the previous sibling is the node just before it in that list. A node without a parent has no
previous sibling either. -/
structure LinksAgree (d : Document) : Prop where
  parent?_eq_iff : ∀ {p c}, d.parent? c = some p ↔ c ∈ d.children p
  nodup : ∀ p, (d.children p).Nodup
  previous?_eq : ∀ {p c before after}, d.children p = before ++ c :: after →
    d.previous? c = before.getLast?
  previous?_eq_none : ∀ {c}, d.parent? c = none → d.previous? c = none
  lt_size : ∀ {p c}, c ∈ d.children p → c < d.size

namespace LinksAgree

/-- In the empty document the links agree. -/
theorem empty : LinksAgree Document.empty := by
  have hchildren : ∀ n, Document.empty.children n = [] := by
    intro n
    cases n <;> rfl
  have hparent : ∀ n, Document.empty.parent? n = none := by
    intro n
    cases n <;> rfl
  have hprevious : ∀ n, Document.empty.previous? n = none := by
    intro n
    cases n <;> rfl
  constructor <;> simp [hchildren, hparent, hprevious]

/-- A new node has no links that could disagree. -/
theorem create {d : Document} (h : LinksAgree d) (kind : NodeKind) :
    LinksAgree (d.create kind).1 where
  parent?_eq_iff {p c} := by
    rw [parent?_create, children_create]
    exact h.parent?_eq_iff
  nodup p := by
    rw [children_create]
    exact h.nodup p
  previous?_eq {p c before after} hs := by
    rw [children_create] at hs
    rw [previous?_create]
    exact h.previous?_eq hs
  previous?_eq_none {c} hc := by
    rw [parent?_create] at hc
    rw [previous?_create]
    exact h.previous?_eq_none hc
  lt_size {p c} hc := by
    rw [children_create] at hc
    rw [size_create]
    exact Nat.lt_succ_of_lt (h.lt_size hc)

/-- A node without a parent is listed nowhere. -/
theorem notMem_children {d : Document} (h : LinksAgree d) {c : NodeId}
    (hc : d.parent? c = none) (p : NodeId) : c ∉ d.children p := fun hm => by
  simp [h.parent?_eq_iff.2 hm] at hc

/-- Appending a node that has no parent keeps the links in agreement. -/
theorem link {d : Document} (h : LinksAgree d) {parent child : NodeId}
    (hp : parent < d.size) (hc : child < d.size) (hfree : d.parent? child = none) :
    LinksAgree (d.link parent child) where
  parent?_eq_iff {p c} := by
    rw [parent?_link hc, children_link hp]
    have hnot := h.notMem_children hfree p
    have hiff := h.parent?_eq_iff (p := p) (c := c)
    by_cases hcc : c = child
    · subst hcc
      by_cases hpp : p = parent
      · simp [hpp]
      · simp [hpp, hnot, Ne.symm hpp]
    · by_cases hpp : p = parent
      · subst hpp
        simp [hcc, hiff]
      · simp [hcc, hpp, hiff]
  nodup p := by
    rw [children_link hp]
    split
    · refine List.nodup_append.2 ⟨h.nodup p, List.nodup_singleton child, ?_⟩
      rintro a ha b hb rfl
      obtain rfl := List.mem_singleton.1 hb
      exact h.notMem_children hfree p ha
    · exact h.nodup p
  previous?_eq {p c before after} hs := by
    rw [children_link hp] at hs
    rw [previous?_link hc]
    by_cases hpp : p = parent
    · subst hpp
      rw [if_pos rfl] at hs
      rcases List.eq_nil_or_concat after with rfl | ⟨after, last, rfl⟩
      · -- the child itself is the last one now
        obtain ⟨rfl, hlast⟩ := List.append_inj' hs rfl
        obtain rfl : child = c := by simpa using hlast
        rw [if_pos rfl]
      · have hs' : d.children p ++ [child] = (before ++ c :: after) ++ [last] := by
          simpa using hs
        obtain ⟨hold, -⟩ := List.append_inj' hs' rfl
        have hne : c ≠ child := fun he =>
          h.notMem_children hfree p (he ▸ hold ▸ by simp)
        rw [if_neg hne]
        exact h.previous?_eq hold
    · rw [if_neg hpp] at hs
      have hne : c ≠ child := fun he =>
        h.notMem_children hfree p (he ▸ hs ▸ by simp)
      rw [if_neg hne]
      exact h.previous?_eq hs
  previous?_eq_none {c} hn := by
    rw [parent?_link hc] at hn
    rw [previous?_link hc]
    by_cases hcc : c = child
    · simp [hcc] at hn
    · rw [if_neg hcc] at hn ⊢
      exact h.previous?_eq_none hn
  lt_size {p c} hm := by
    rw [children_link hp] at hm
    rw [size_link]
    by_cases hpp : p = parent
    · rw [if_pos hpp, List.mem_append, List.mem_singleton] at hm
      rcases hm with hm | rfl
      · exact h.lt_size hm
      · exact hc
    · rw [if_neg hpp] at hm
      exact h.lt_size hm

/-- **A node stands at one place** among the children of its parent. -/
theorem exists_split {d : Document} (h : LinksAgree d) {p c : NodeId}
    (hp : d.parent? c = some p) : ∃ before after, d.children p = before ++ c :: after :=
  List.append_of_mem (h.parent?_eq_iff.1 hp)

/-- A list of children is no longer than the document. -/
theorem length_children_le {d : Document} (h : LinksAgree d) (p : NodeId) :
    (d.children p).length ≤ d.size :=
  length_le_of_nodup (h.nodup p) fun _ => h.lt_size

end LinksAgree

/-- An append that is made is a link between two nodes of the document. -/
theorem append?_eq_some_iff {d d' : Document} {parent child : NodeId} :
    d.append? parent child = some d' ↔
      (parent < d.size ∧ child < d.size) ∧ d.link parent child = d' := by
  simp [append?]

/-- **The links of a tree-shaped document agree.** -/
theorem TreeShaped.linksAgree {d : Document} (h : TreeShaped d) : LinksAgree d := by
  induction h with
  | empty => exact .empty
  | create kind _ _ ih => exact ih.create kind
  | append _ happend _ hfree _ _ ih =>
    obtain ⟨⟨hp, hc⟩, rfl⟩ := append?_eq_some_iff.1 happend
    exact ih.link hp hc hfree

/-! ### Attaching new nodes -/

/-- The document with a new node as the last child of `parent`. -/
def attach (d : Document) (parent : NodeId) (kind : NodeKind) : Document :=
  (d.create kind).1.link parent d.size

/-- Attaching a node makes the document larger by one. -/
@[simp] theorem size_attach (d : Document) (parent : NodeId) (kind : NodeKind) :
    (d.attach parent kind).size = d.size + 1 := by
  simp [attach]

/-- A number that names no node yet is nobody's ancestor. -/
theorem LinksAgree.not_isAncestor_size {d : Document} (h : LinksAgree d) (n : NodeId) :
    ¬ d.IsAncestor d.size n := by
  intro ha
  obtain ⟨c, hc, -⟩ := Relation.TransGen.head'_iff.1 ha
  have hmem : c ∈ d.children d.size := h.parent?_eq_iff.1 hc
  simp [children, node?_size] at hmem

/-- **A document keeps its shape** when a new node is attached to one of its nodes. -/
theorem TreeShaped.attach {d : Document} (h : TreeShaped d) {parent : NodeId}
    (hp : parent < d.size) {kind : NodeKind} (hk : kind ≠ .document) :
    TreeShaped (d.attach parent kind) := by
  have hfree : d.parent? d.size = none := by
    rw [parent?, node?_size, Option.bind_none]
  have hancestor : ¬ (d.create kind).1.IsAncestor d.size parent := by
    have hsame : (d.create kind).1.IsParent = d.IsParent := by
      funext p c
      rw [IsParent, IsParent, parent?_create]
    rw [IsAncestor, hsame]
    exact h.linksAgree.not_isAncestor_size parent
  refine .append (h.create kind hk) (append?_eq_some_iff.2 ⟨⟨?_, ?_⟩, rfl⟩) ?_ ?_ ?_ hancestor
  · rw [size_create]
    exact Nat.lt_succ_of_lt hp
  · rw [size_create]
    exact Nat.lt_succ_self _
  · exact Nat.ne_of_gt (Nat.zero_lt_of_lt hp)
  · rw [parent?_create, hfree]
  · exact Nat.ne_of_gt hp

/-- **A document keeps its shape** when a node that has no parent gets one that has none. -/
theorem TreeShaped.link_top {d : Document} (h : TreeShaped d) {parent child : NodeId}
    (hp : parent < d.size) (hc : child < d.size) (hroot : child ≠ root)
    (hfree : d.parent? child = none) (hne : child ≠ parent) (htop : d.parent? parent = none) :
    TreeShaped (d.link parent child) := by
  refine .append h (append?_eq_some_iff.2 ⟨⟨hp, hc⟩, rfl⟩) hroot hfree hne fun ha => ?_
  obtain ⟨p, -, hparent⟩ := Relation.TransGen.tail'_iff.1 ha
  rw [IsParent, htop] at hparent
  cases hparent

/-- A page with a form of two controls: between their tags there is blank text and a comment,
and the tag of the second one is in upper case. -/
def formPage : Document :=
  empty
    |>.attach 0 (.element ⟨"html", .empty⟩)
    |>.attach 1 (.element ⟨"body", .empty⟩)
    |>.attach 2 (.element ⟨"form", .ofList [("class", "wide plain")]⟩)
    |>.attach 3 (.element ⟨"input", .ofList [("type", "Radio"), ("data-key", "a")]⟩)
    |>.attach 3 (.text "\n")
    |>.attach 3 (.comment "next")
    |>.attach 3 (.element ⟨"INPUT", .empty⟩)

/-- The page with the form is tree-shaped. -/
theorem treeShaped_formPage : TreeShaped formPage := by
  have hsize : empty.size = 1 := rfl
  rw [formPage]
  refine .attach (.attach (.attach (.attach (.attach (.attach (.attach .empty
    ?_ ?_) ?_ ?_) ?_ ?_) ?_ ?_) ?_ ?_) ?_ ?_) ?_ ?_ <;> simp [hsize]

end Document

end SelectorFinder.Dom
