import SelectorFinder.Proofs.Dom.TreeShape

/-!
# Building Documents

A document is built from the empty one by calls that make a node or append one node to
another, in any order; a node may be appended several times, or below itself. `Built` is this
history and `Linked` the invariant that every call keeps. A node that was appended again may
be listed at several places, so the invariant speaks of one of them: the place to which its
own links point.

Following the parent links from a node ends after a number of steps, the node's depth
(`HasDepth`), exactly if the node does not lie below itself; in a tree-shaped document every
node has a depth, and it is below the number of nodes.

## Main results

* `Built.linked`: what holds of the links after every run of calls.
* `GrowsTo.kind?_eq`: no run of calls changes what a node is.
* `TreeShaped.exists_hasDepth`: in a tree-shaped document every node has a depth.
* `built_invariant`: both together, with the sharper statement on tree-shaped documents.
-/

namespace SelectorFinder.Dom.Document

/-! ### What a call changes of a node -/

/-- The new node has the kind it was created with. -/
theorem kind?_create (d : Document) (kind : NodeKind) (n : NodeId) :
    (d.create kind).1.kind? n = if n = d.size then some kind else d.kind? n := by
  rw [kind?, kind?, node?_create]
  split
  next => rfl
  next => rfl

/-- A link changes no kind. -/
@[simp] theorem kind?_link (d : Document) (parent child n : NodeId) :
    (d.link parent child).kind? n = d.kind? n := by
  rw [kind?, kind?, node?_link, Option.map_map]
  rfl

/-- Beyond the last node there is no kind. -/
theorem kind?_eq_none_of_size_le {d : Document} {n : NodeId} (h : d.size ≤ n) :
    d.kind? n = none := by
  rw [kind?, node?_eq_none_iff.2 h, Option.map_none]

/-! ### Runs of calls -/

/-- **One call**: an element, a text or a comment is made, or a node is appended to a node. -/
inductive Grows : Document → Document → Prop
  | create {d : Document} (kind : NodeKind) : kind ≠ .document → Grows d (d.create kind).1
  | append {d d' : Document} {parent child : NodeId} :
      d.append? parent child = some d' → Grows d d'

/-- A run of calls leads from the first document to the second. -/
abbrev GrowsTo : Document → Document → Prop :=
  Relation.ReflTransGen Grows

/-- **Built documents**: those to which a run of calls leads from the empty document. -/
def Built (d : Document) : Prop :=
  GrowsTo Document.empty d

/-- A tree-shaped document is built, by the calls of its history. -/
theorem TreeShaped.built {d : Document} (h : TreeShaped d) : Built d := by
  induction h with
  | empty => exact .refl
  | create kind _ hk ih => exact ih.tail (.create kind hk)
  | append _ happend _ _ _ _ ih => exact ih.tail (.append happend)

namespace Grows

variable {d d' : Document}

/-- A document does not get smaller as it grows. -/
theorem size_le (h : Grows d d') : d.size ≤ d'.size := by
  cases h with
  | create kind _ => simp
  | append h =>
    obtain ⟨-, rfl⟩ := append?_eq_some_iff.1 h
    exact Nat.le_of_eq (size_link ..).symm

/-- A call does not change what the nodes are that were there before. -/
theorem kind?_eq (h : Grows d d') {n : NodeId} (hn : n < d.size) : d'.kind? n = d.kind? n := by
  cases h with
  | create kind _ => rw [kind?_create, if_neg (Nat.ne_of_lt hn)]
  | append h =>
    obtain ⟨-, rfl⟩ := append?_eq_some_iff.1 h
    rw [kind?_link]

end Grows

/-- **No run of calls changes what a node is**, and none takes a node away. -/
theorem GrowsTo.kind?_eq {d d' : Document} (h : GrowsTo d d') :
    d.size ≤ d'.size ∧ ∀ n < d.size, d'.kind? n = d.kind? n := by
  induction h with
  | refl => exact ⟨Nat.le_refl _, fun _ _ => rfl⟩
  | tail _ hlast ih =>
    obtain ⟨hsize, hkind⟩ := ih
    refine ⟨Nat.le_trans hsize hlast.size_le, fun n hn => ?_⟩
    rw [hlast.kind?_eq (Nat.lt_of_lt_of_le hn hsize), hkind n hn]

/-! ### The invariant of building -/

/-- **The links of a built document.** Only node 0 is the document node, all links lead to
nodes, a node has a parent exactly if it is listed, and its parent and previous sibling are
those of one place at which it is listed. -/
structure Linked (d : Document) : Prop where
  kind?_eq_document_iff : ∀ n, d.kind? n = some .document ↔ n = root
  lt_of_mem_children : ∀ {p c}, c ∈ d.children p → c < d.size
  lt_of_parent? : ∀ {c p}, d.parent? c = some p → p < d.size
  lt_of_previous? : ∀ {c s}, d.previous? c = some s → s < d.size
  exists_parent?_iff : ∀ c, (∃ p, d.parent? c = some p) ↔ ∃ p, c ∈ d.children p
  exists_place : ∀ {c p}, d.parent? c = some p →
    ∃ before after, d.children p = before ++ c :: after ∧ d.previous? c = before.getLast?

namespace Linked

variable {d : Document}

/-- In the empty document there is nothing to link. -/
theorem empty : Linked Document.empty := by
  have hnone : ∀ n, Document.empty.node? (n + 1) = none := fun _ => rfl
  have hchildren : ∀ n, Document.empty.children n = [] := by
    intro n
    cases n <;> rfl
  have hparent : ∀ n, Document.empty.parent? n = none := by
    intro n
    cases n <;> rfl
  have hprevious : ∀ n, Document.empty.previous? n = none := by
    intro n
    cases n <;> rfl
  refine ⟨fun n => ?_, ?_, ?_, ?_, ?_, ?_⟩
  · cases n with
    | zero => exact ⟨fun _ => rfl, fun _ => rfl⟩
    | succ n => simp [kind?, hnone, root]
  all_goals simp [hchildren, hparent, hprevious]

/-- There is the document node at least. -/
theorem size_pos (h : Linked d) : 0 < d.size := by
  refine Nat.pos_of_ne_zero fun hzero => ?_
  have hroot := (h.kind?_eq_document_iff root).2 rfl
  rw [kind?_eq_none_of_size_le (show d.size ≤ root from Nat.le_of_eq hzero)] at hroot
  exact absurd hroot (by simp)

/-- A new node is linked to nothing. -/
theorem create (h : Linked d) {kind : NodeKind} (hk : kind ≠ .document) :
    Linked (d.create kind).1 where
  kind?_eq_document_iff n := by
    rw [kind?_create]
    by_cases hn : n = d.size
    · have hroot : n ≠ root := hn ▸ Nat.ne_of_gt h.size_pos
      rw [if_pos hn]
      exact iff_of_false (fun hdocument => hk (Option.some.inj hdocument)) hroot
    · rw [if_neg hn]
      exact h.kind?_eq_document_iff n
  lt_of_mem_children hc := by
    rw [children_create] at hc
    rw [size_create]
    exact Nat.lt_succ_of_lt (h.lt_of_mem_children hc)
  lt_of_parent? hc := by
    rw [parent?_create] at hc
    rw [size_create]
    exact Nat.lt_succ_of_lt (h.lt_of_parent? hc)
  lt_of_previous? hc := by
    rw [previous?_create] at hc
    rw [size_create]
    exact Nat.lt_succ_of_lt (h.lt_of_previous? hc)
  exists_parent?_iff c := by
    simp only [parent?_create, children_create]
    exact h.exists_parent?_iff c
  exists_place hc := by
    rw [parent?_create] at hc
    rw [children_create, previous?_create]
    exact h.exists_place hc

/-- Appending a node, be it listed already or not, gives it a place at the end of the
parent's list, and no list loses anything. -/
theorem link (h : Linked d) {parent child : NodeId} (hp : parent < d.size)
    (hc : child < d.size) : Linked (d.link parent child) where
  kind?_eq_document_iff n := by
    rw [kind?_link]
    exact h.kind?_eq_document_iff n
  lt_of_mem_children {p c} hm := by
    rw [children_link hp] at hm
    rw [size_link]
    split at hm
    · rcases List.mem_append.1 hm with hm | hm
      · exact h.lt_of_mem_children hm
      · exact List.mem_singleton.1 hm ▸ hc
    · exact h.lt_of_mem_children hm
  lt_of_parent? {c p} hcp := by
    rw [parent?_link hc] at hcp
    rw [size_link]
    split at hcp
    · exact Option.some.inj hcp ▸ hp
    · exact h.lt_of_parent? hcp
  lt_of_previous? {c s} hcs := by
    rw [previous?_link hc] at hcs
    rw [size_link]
    split at hcs
    · exact h.lt_of_mem_children (List.mem_of_getLast? hcs)
    · exact h.lt_of_previous? hcs
  exists_parent?_iff c := by
    have hold := h.exists_parent?_iff c
    simp only [parent?_link hc, children_link hp]
    by_cases hcc : c = child
    · subst hcc
      refine iff_of_true ⟨parent, if_pos rfl⟩ ⟨parent, ?_⟩
      rw [if_pos rfl]
      exact List.mem_append_right _ (List.mem_singleton_self c)
    · simp only [if_neg hcc, hold]
      refine exists_congr fun p => ?_
      split
      · simp [hcc]
      · rfl
  exists_place {c p} hcp := by
    rw [parent?_link hc] at hcp
    rw [children_link hp, previous?_link hc]
    by_cases hcc : c = child
    · -- the place at the end is the one to which the child's links point now
      subst hcc
      obtain rfl : parent = p := by simpa using hcp
      exact ⟨d.children parent, [], by rw [if_pos rfl], by rw [if_pos rfl]⟩
    · rw [if_neg hcc] at hcp
      obtain ⟨before, after, hs, hprevious⟩ := h.exists_place hcp
      rw [if_neg hcc]
      by_cases hpp : p = parent
      · exact ⟨before, after ++ [child], by simp [hpp ▸ hs, hpp], hprevious⟩
      · exact ⟨before, after, by rw [if_neg hpp, hs], hprevious⟩

/-- Each call keeps the invariant. -/
theorem grows {d' : Document} (h : Linked d) (hg : Grows d d') : Linked d' := by
  cases hg with
  | create kind hk => exact h.create hk
  | append happend =>
    obtain ⟨⟨hp, hc⟩, rfl⟩ := append?_eq_some_iff.1 happend
    exact h.link hp hc

/-- The place of a node as an index: the previous sibling stands one index before it. -/
theorem exists_index (h : Linked d) {c p : NodeId} (hp : d.parent? c = some p) :
    ∃ i, (d.children p)[i]? = some c ∧
      d.previous? c = if i = 0 then none else (d.children p)[i - 1]? := by
  obtain ⟨before, after, hs, hprevious⟩ := h.exists_place hp
  refine ⟨before.length, by simp [hs], ?_⟩
  rw [hprevious, hs, List.getLast?_eq_getElem?]
  split
  next hzero => simp [List.eq_nil_of_length_eq_zero hzero]
  next hpos => rw [List.getElem?_append_left (by omega)]

end Linked

/-- **Every built document is linked.** -/
theorem Built.linked {d : Document} (h : Built d) : Linked d := by
  induction h with
  | refl => exact .empty
  | tail _ hlast ih => exact ih.grows hlast

/-! ### Depths -/

/-- Following the parent links from a node ends after that many steps. -/
inductive HasDepth (d : Document) : NodeId → Nat → Prop
  | top {n : NodeId} : d.parent? n = none → HasDepth d n 0
  | down {n p : NodeId} {k : Nat} :
      d.parent? n = some p → HasDepth d p k → HasDepth d n (k + 1)

namespace HasDepth

variable {d : Document} {n p : NodeId} {k : Nat}

/-- A node has one depth at most. -/
theorem unique {j : Nat} (h : d.HasDepth n k) (h' : d.HasDepth n j) : k = j := by
  induction h generalizing j with
  | top hnone =>
    cases h' with
    | top _ => rfl
    | down hp _ => simp [hnone] at hp
  | down hp _ ih =>
    cases h' with
    | top hnone => simp [hnone] at hp
    | down hp' hk =>
      obtain rfl := Option.some.inj (hp.symm.trans hp')
      rw [ih hk]

/-- An ancestor is less deep. -/
theorem of_isAncestor {a : NodeId} (ha : d.IsAncestor a n) (h : d.HasDepth n k) :
    ∃ j < k, d.HasDepth a j := by
  induction ha generalizing k with
  | single hp =>
    cases h with
    | top hnone => simp [show d.parent? _ = _ from hp] at hnone
    | down hp' hk =>
      obtain rfl := Option.some.inj (hp.symm.trans hp')
      exact ⟨_, Nat.lt_succ_self _, hk⟩
  | tail _ hp ih =>
    cases h with
    | top hnone => simp [show d.parent? _ = _ from hp] at hnone
    | down hp' hk =>
      obtain rfl := Option.some.inj (hp.symm.trans hp')
      obtain ⟨j, hj, ha⟩ := ih hk
      exact ⟨j, Nat.lt_succ_of_lt hj, ha⟩

/-- **A node that has a depth does not lie below itself.** -/
theorem not_isAncestor (h : d.HasDepth n k) : ¬ d.IsAncestor n n := fun ha => by
  obtain ⟨j, hj, h'⟩ := h.of_isAncestor ha
  exact Nat.ne_of_gt hj (h.unique h')

/-- The node and its ancestors, which are all different. -/
theorem exists_chain (h : d.HasDepth n k) :
    ∃ chain : List NodeId, chain.length = k + 1 ∧ chain.Nodup ∧
      ∀ m ∈ chain, m = n ∨ d.IsAncestor m n := by
  induction h with
  | @top n _ => exact ⟨[n], by simp⟩
  | @down n p k hp hk ih =>
    obtain ⟨chain, hlength, hnodup, hmem⟩ := ih
    have hancestor : ∀ m ∈ chain, d.IsAncestor m n := by
      intro m hm
      rcases hmem m hm with rfl | ha
      · exact .single hp
      · exact ha.tail hp
    refine ⟨n :: chain, by simp [hlength], List.nodup_cons.2 ⟨fun hn => ?_, hnodup⟩, ?_⟩
    · exact (HasDepth.down hp hk).not_isAncestor (hancestor n hn)
    · intro m hm
      rcases List.mem_cons.1 hm with rfl | hm
      · exact .inl rfl
      · exact .inr (hancestor m hm)

/-- **A depth is below the number of nodes**, for the chain of ancestors repeats none. -/
theorem lt_size (h : d.HasDepth n k) (hl : Linked d) (hn : n < d.size) : k < d.size := by
  obtain ⟨chain, hlength, hnodup, hmem⟩ := h.exists_chain
  have hlt : ∀ m ∈ chain, m < d.size := by
    intro m hm
    rcases hmem m hm with rfl | ha
    · exact hn
    · obtain ⟨c, hc, -⟩ := Relation.TransGen.head'_iff.1 ha
      exact hl.lt_of_parent? hc
  have hle := length_le_of_nodup hnodup hlt
  rwa [hlength] at hle

/-- A chain of parents that does not pass through the node appended stays as it was. -/
theorem link {parent child : NodeId} (h : d.HasDepth n k) (hc : child < d.size)
    (hne : n ≠ child) (hna : ¬ d.IsAncestor child n) : (d.link parent child).HasDepth n k := by
  induction h with
  | top hnone => exact .top (by rw [parent?_link hc, if_neg hne, hnone])
  | @down n p k hp _ ih =>
    refine .down (by rw [parent?_link hc, if_neg hne, hp]) (ih ?_ fun ha => hna (ha.tail hp))
    rintro rfl
    exact hna (.single hp)

end HasDepth

/-- **In a tree-shaped document every node has a depth.** -/
theorem TreeShaped.exists_hasDepth {d : Document} (h : TreeShaped d) (n : NodeId) :
    ∃ k, d.HasDepth n k := by
  induction h generalizing n with
  | empty => exact ⟨0, .top (by cases n <;> rfl)⟩
  | @create d kind _ _ ih =>
    obtain ⟨k, hk⟩ := ih n
    refine ⟨k, ?_⟩
    clear ih
    induction hk with
    | top hnone => exact .top (by rw [parent?_create, hnone])
    | down hp _ ih => exact .down (by rw [parent?_create, hp]) ih
  | @append d _ parent child _ happend _ _ hself hna ih =>
    obtain ⟨⟨hp, hc⟩, rfl⟩ := append?_eq_some_iff.1 happend
    -- the new parent keeps its depth, so the child has one now, and with it all below the child
    obtain ⟨j, hj⟩ := ih parent
    have hchild : (d.link parent child).HasDepth child (j + 1) :=
      .down (by rw [parent?_link hc, if_pos rfl]) (hj.link hc (Ne.symm hself) hna)
    obtain ⟨k, hk⟩ := ih n
    clear ih
    induction hk with
    | @top n hnone =>
      by_cases hn : n = child
      · exact ⟨j + 1, by rwa [hn]⟩
      · exact ⟨0, .top (by rw [parent?_link hc, if_neg hn, hnone])⟩
    | @down n p k hnp _ ih =>
      by_cases hn : n = child
      · exact ⟨j + 1, by rwa [hn]⟩
      · obtain ⟨i, hi⟩ := ih
        exact ⟨i + 1, .down (by rw [parent?_link hc, if_neg hn, hnp]) hi⟩

namespace TreeShaped

variable {d : Document}

/-- Every node has a depth below the number of nodes. -/
theorem exists_hasDepth_lt (h : TreeShaped d) (n : NodeId) : ∃ k < d.size, d.HasDepth n k := by
  obtain ⟨k, hk⟩ := h.exists_hasDepth n
  by_cases hn : n < d.size
  · exact ⟨k, hk.lt_size h.built.linked hn, hk⟩
  · have hnone : d.parent? n = none := by
      rw [parent?, node?_eq_none_iff.2 (Nat.le_of_not_lt hn), Option.bind_none]
    exact ⟨0, h.built.linked.size_pos, .top hnone⟩

/-- A node is listed once, by its parent, and by no other node. -/
theorem count_children (h : TreeShaped d) (c p : NodeId) :
    (d.children p).count c = if d.parent? c = some p then 1 else 0 := by
  rw [(h.linksAgree.nodup p).count]
  exact if_congr h.linksAgree.parent?_eq_iff.symm rfl rfl

end TreeShaped

/-- **What building never breaks.** After every run of calls node 0 is the only document node;
making a node gives the next number to a node of that kind, and no further run changes what a
node is; all links lead to nodes; a node has a parent exactly if it is listed, and then there
is an index at which its parent lists it, the previous sibling being the node listed just
before. If moreover the document is tree-shaped, each node is listed exactly once over all
lists, by its parent, and following the parent links from any node ends after fewer steps
than there are nodes. -/
theorem built_invariant {d : Document} (h : Built d) :
    (∀ n, d.kind? n = some .document ↔ n = root) ∧
    (∀ kind, (d.create kind).2 = d.size ∧ (d.create kind).1.kind? d.size = some kind) ∧
    (∀ d', GrowsTo d d' → ∀ n < d.size, d'.kind? n = d.kind? n) ∧
    (∀ n m, d.parent? n = some m ∨ d.previous? n = some m ∨ m ∈ d.children n →
      n < d.size ∧ m < d.size) ∧
    (∀ c, (∃ p, d.parent? c = some p) ↔ ∃ p, c ∈ d.children p) ∧
    (∀ c p, d.parent? c = some p → ∃ i, (d.children p)[i]? = some c ∧
      d.previous? c = if i = 0 then none else (d.children p)[i - 1]?) ∧
    (TreeShaped d →
      (∀ c p, (d.children p).count c = if d.parent? c = some p then 1 else 0) ∧
      ∀ n, ∃ k < d.size, d.HasDepth n k) := by
  have hl := h.linked
  refine ⟨hl.kind?_eq_document_iff, fun kind => ⟨rfl, ?create⟩, fun _ hg => hg.kind?_eq.2,
    fun n m hlink => ⟨?source, ?target⟩, hl.exists_parent?_iff, fun _ _ => hl.exists_index,
    fun ht => ⟨ht.count_children, ht.exists_hasDepth_lt⟩⟩
  case create => rw [kind?_create, if_pos rfl]
  case source =>
    refine Nat.lt_of_not_le fun hle => ?_
    have hnode := node?_eq_none_iff.2 hle
    simp [parent?, previous?, children, hnode] at hlink
  case target =>
    rcases hlink with hp | hs | hc
    · exact hl.lt_of_parent? hp
    · exact hl.lt_of_previous? hs
    · exact hl.lt_of_mem_children hc

/-- An element and a text; the text is appended to the document node, then to the element, and
to the document node again. -/
def relinked : Document :=
  (((((empty.create (.element ⟨"p", .empty⟩)).1.create (.text "a")).1.link 0 1).link 0 2).link
    1 2).link 0 2

/-- The document in which the text is linked again and again can be built. -/
theorem built_relinked : Built relinked := by
  have hstart : Built ((empty.create (.element ⟨"p", .empty⟩)).1.create (.text "a")).1 :=
    (Relation.ReflTransGen.single (.create _ (by simp))).tail (.create _ (by simp))
  have happend : ∀ {d : Document} {parent child : NodeId}, Built d → d.size = 3 →
      parent < 3 → child < 3 → Built (d.link parent child) := by
    intro d parent child hd hsize hp hc
    exact hd.tail (.append (append?_eq_some_iff.2 ⟨⟨hsize ▸ hp, hsize ▸ hc⟩, rfl⟩))
  exact happend (happend (happend (happend hstart rfl (by decide) (by decide)) rfl (by decide)
    (by decide)) rfl (by decide) (by decide)) rfl (by decide) (by decide)

/-- The text is listed three times, and its links are those of its last place. -/
theorem built_invariant_relinked :
    Built relinked ∧ relinked.children 0 = [1, 2, 2] ∧ relinked.children 1 = [2] ∧
      relinked.parent? 2 = some 0 ∧
      ∃ i, (relinked.children 0)[i]? = some 2 ∧
        relinked.previous? 2 = if i = 0 then none else (relinked.children 0)[i - 1]? := by
  have hplace := (built_invariant built_relinked).2.2.2.2.2.1 2 0 rfl
  exact ⟨built_relinked, rfl, rfl, rfl, hplace⟩

end SelectorFinder.Dom.Document
