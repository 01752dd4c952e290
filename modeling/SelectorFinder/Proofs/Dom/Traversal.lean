import SelectorFinder.Proofs.Dom.Subtrees

/-!
# Traversals

A walk goes through a document in rounds: each round visits one node and leaves a state from
which the next one starts, or the result. Nothing bounds the number of rounds, so whether a walk
ends is a matter of the document; `Walk.Ends` says that it does, with the nodes that it visits.

A walk with a stack visits the node at the top and puts the nodes below it onto the stack, the
last one first. It visits the nodes in the order in which they start when the forest is written
down (`Traverses`), which ends in a tree-shaped document and holds no node twice.

## Main results

* `Walk.EndsFrom.unique`, `Walk.not_endsFrom`: a walk ends in one way at most, and it does not
  end where it always goes on.
* `Traverses.endsFrom`: a walk with a stack visits the forest on the stack.
* `TreeShaped.exists_traverses`, `TreeShaped.nodup_of_traverses`: in a tree-shaped document a
  traversal ends, and it meets no node twice.
-/

namespace SelectorFinder.Dom

/-! ### Walks in rounds -/

/-- How a walk stands: it goes on from a state, or it has ended with a result. -/
inductive Progress (σ ρ : Type) where
  | going (state : σ)
  | ended (result : ρ)

/-- **A walk**: where it starts, and for each state the node that a round visits and how the walk
stands after it. -/
structure Walk (σ ρ : Type) where
  start : Progress σ ρ
  round : σ → NodeId × Progress σ ρ

namespace Walk

variable {σ ρ : Type} {w : Walk σ ρ} {p : Progress σ ρ} {visited : List NodeId} {result : ρ}

/-- **How a walk ends** that stands somewhere: the nodes that it visits from there on, one in each
round, and its result. -/
inductive EndsFrom (w : Walk σ ρ) : Progress σ ρ → List NodeId → ρ → Prop
  | ended {result : ρ} : EndsFrom w (.ended result) [] result
  | going {s : σ} {n : NodeId} {next : Progress σ ρ} {visited : List NodeId} {result : ρ} :
      w.round s = (n, next) → EndsFrom w next visited result →
      EndsFrom w (.going s) (n :: visited) result

/-- The walk visits these nodes, in this order, and ends with that result. -/
def Ends (w : Walk σ ρ) (visited : List NodeId) (result : ρ) : Prop :=
  w.EndsFrom w.start visited result

/-- **A walk from a node that ends** with a result: it visits no node of the document twice, and
but for the node itself nothing outside the document. -/
def EndsOnce (w : Walk σ ρ) (d : Document) (n : NodeId) (result : ρ) : Prop :=
  ∃ visited, w.Ends visited result ∧ visited.Nodup ∧ ∀ m ∈ visited, m = n ∨ m < d.size

/-- **A walk ends in one way at most.** -/
theorem EndsFrom.unique (h : w.EndsFrom p visited result) {visited' : List NodeId} {result' : ρ}
    (h' : w.EndsFrom p visited' result') : visited = visited' ∧ result = result' := by
  induction h generalizing visited' with
  | ended =>
    cases h' with
    | ended => exact ⟨rfl, rfl⟩
  | going hround _ ih =>
    cases h' with
    | going hround' hrest =>
      obtain ⟨rfl, rfl⟩ := Prod.mk.inj (hround.symm.trans hround')
      obtain ⟨rfl, rfl⟩ := ih hrest
      exact ⟨rfl, rfl⟩

/-- **A walk without an end**: from a state of some kind it always goes on, to a state of that
kind. -/
theorem not_endsFrom {kind : σ → Prop}
    (h : ∀ s, kind s → ∃ s', (w.round s).2 = .going s' ∧ kind s') {s : σ} (hs : kind s)
    (visited : List NodeId) (result : ρ) : ¬ w.EndsFrom (.going s) visited result := by
  induction visited generalizing s with
  | nil =>
    intro hends
    cases hends
  | cons n visited ih =>
    intro hends
    obtain ⟨s', hgoing, hs'⟩ := h s hs
    cases hends with
    | going hround hrest =>
      rw [hround] at hgoing
      obtain rfl : _ = Progress.going s' := hgoing
      exact ih hs' hrest

end Walk

/-! ### Walks with a stack -/

/-- Puts nodes onto a stack, one after the other. -/
def pushAll (ns stack : List NodeId) : List NodeId :=
  ns.foldl (fun stack n => n :: stack) stack

/-- Nodes that are put onto a stack with the last one first lie there in order. -/
theorem pushAll_reverse (ns stack : List NodeId) : pushAll ns.reverse stack = ns ++ stack := by
  rw [pushAll, List.foldl_reverse]
  induction ns with
  | nil => rfl
  | cons n ns ih => rw [List.foldr_cons, ih, List.cons_append]

section Stack

variable {β : Type} {below : NodeId → List NodeId} {note : β → NodeId → β}

/-- A walk goes on with the node at the top of the stack, and ends when there is none. -/
def popFrom (stack : List NodeId) (noted : β) : Progress (NodeId × List NodeId × β) β :=
  match stack with
  | [] => .ended noted
  | n :: rest => .going (n, rest, noted)

/-- **A walk with a stack**: each round takes a node off the stack, notes what there is to note of
it, and puts the nodes below it onto the stack, the last one first. -/
def stackWalk (below : NodeId → List NodeId) (note : β → NodeId → β) (stack : List NodeId)
    (noted : β) : Walk (NodeId × List NodeId × β) β where
  start := popFrom stack noted
  round := fun (n, rest, noted) => (n, popFrom (pushAll (below n).reverse rest) (note noted n))

/-- **The order of a traversal**: each node, then what is traversed below it, then the rest. -/
inductive Traverses (below : NodeId → List NodeId) : List NodeId → List NodeId → Prop
  | nil : Traverses below [] []
  | cons {n : NodeId} {rest inner outer : List NodeId} :
      Traverses below (below n) inner → Traverses below rest outer →
      Traverses below (n :: rest) (n :: (inner ++ outer))

namespace Traverses

variable {starts starts' visited visited' : List NodeId}

/-- Two stretches of a walk make one. -/
theorem append (h : Traverses below starts visited) (h' : Traverses below starts' visited') :
    Traverses below (starts ++ starts') (visited ++ visited') := by
  induction h with
  | nil => exact h'
  | cons hinner _ _ ih =>
    rw [List.cons_append, List.cons_append, List.append_assoc]
    exact .cons hinner ih

/-- A forest is traversed in one way at most. -/
theorem unique (h : Traverses below starts visited) (h' : Traverses below starts visited') :
    visited = visited' := by
  induction h generalizing visited' with
  | nil =>
    cases h'
    rfl
  | cons _ _ ihinner ihouter =>
    cases h' with
    | cons hinner' houter' => rw [ihinner hinner', ihouter houter']

/-- After the first node the nodes below it come in front of the rest. -/
theorem exists_of_cons {n : NodeId} (h : Traverses below (n :: starts) visited) :
    ∃ rest, visited = n :: rest ∧ Traverses below (below n ++ starts) rest := by
  cases h with
  | cons hinner houter => exact ⟨_, rfl, hinner.append houter⟩

/-- **A walk with a stack visits the forest on the stack**, and notes its nodes in this order. -/
theorem endsFrom (h : Traverses below starts visited) (stack : List NodeId) (start noted : β) :
    (stackWalk below note stack start).EndsFrom (popFrom starts noted) visited
      (visited.foldl note noted) := by
  -- on the nodes still to be visited: each round takes the first of them
  induction visited generalizing starts noted with
  | nil =>
    cases h
    exact .ended
  | cons m visited ih =>
    cases starts with
    | nil => cases h
    | cons n starts =>
      obtain ⟨rest, heq, hrest⟩ := h.exists_of_cons
      obtain ⟨rfl, rfl⟩ := List.cons.inj heq
      refine .going rfl ?_
      rw [pushAll_reverse]
      exact ih hrest (note noted m)

/-- A stack walk ends with what it has noted of every node, in the order of its visits. -/
theorem ends (h : Traverses below starts visited) (noted : β) :
    (stackWalk below note starts noted).Ends visited (visited.foldl note noted) :=
  h.endsFrom starts noted noted

end Traverses

end Stack

/-! ### Traversals of a tree-shaped document -/

namespace Document

variable {d : Document} {n m : NodeId} {k : Nat} {below : NodeId → List NodeId}
  {starts visited : List NodeId}

/-- What is traversed lies in the subtree of a node with which the traversal starts. -/
theorem LinksAgree.exists_inSubtree_of_traverses (hl : LinksAgree d)
    (hbelow : ∀ n, (below n).Sublist (d.children n)) (h : Traverses below starts visited)
    (hm : m ∈ visited) : ∃ s ∈ starts, d.InSubtree s m := by
  induction h with
  | nil => exact absurd hm List.not_mem_nil
  | @cons n rest inner outer _ _ ihinner ihouter =>
    rcases List.mem_cons.1 hm with rfl | hm
    · exact ⟨m, List.mem_cons_self, .refl⟩
    rcases List.mem_append.1 hm with hm | hm
    · obtain ⟨c, hc, hcm⟩ := ihinner hm
      have hparent : d.IsParent n c := hl.parent?_eq_iff.2 ((hbelow n).subset hc)
      exact ⟨n, List.mem_cons_self, .head hparent hcm⟩
    · obtain ⟨s, hs, hsm⟩ := ihouter hm
      exact ⟨s, List.mem_cons_of_mem n hs, hsm⟩

/-- What is traversed from a node, apart from the node itself, lies below it. -/
theorem LinksAgree.isAncestor_of_traverses (hl : LinksAgree d)
    (hbelow : ∀ n, (below n).Sublist (d.children n)) (hstarts : starts.Sublist (d.children n))
    (h : Traverses below starts visited) (hm : m ∈ visited) : d.IsAncestor n m := by
  obtain ⟨c, hc, hcm⟩ := hl.exists_inSubtree_of_traverses hbelow h hm
  have hparent : d.IsParent n c := hl.parent?_eq_iff.2 (hstarts.subset hc)
  exact .head' hparent hcm

/-- What lies below a node is a node of the document. -/
theorem LinksAgree.lt_size_of_isAncestor (hl : LinksAgree d) (h : d.IsAncestor n m) :
    m < d.size := by
  obtain ⟨p, -, hp⟩ := Relation.TransGen.tail'_iff.1 h
  exact hl.lt_size (hl.parent?_eq_iff.1 hp)

namespace TreeShaped

/-- **A traversal of a tree-shaped document ends.** -/
theorem exists_traverses (h : TreeShaped d) (hbelow : ∀ n, (below n).Sublist (d.children n))
    (starts : List NodeId) : ∃ visited, Traverses below starts visited := by
  have hlist : ∀ ns : List NodeId, (∀ n ∈ ns, ∃ visited, Traverses below [n] visited) →
      ∃ visited, Traverses below ns visited := by
    intro ns hns
    induction ns with
    | nil => exact ⟨[], .nil⟩
    | cons n ns ih =>
      obtain ⟨first, hfirst⟩ := hns n List.mem_cons_self
      obtain ⟨rest, hrest⟩ := ih fun m hm => hns m (List.mem_cons_of_mem n hm)
      exact ⟨first ++ rest, hfirst.append hrest⟩
  have hone : ∀ n, ∃ visited, Traverses below [n] visited := by
    intro n
    induction n using h.induction_children with
    | step n ih =>
      obtain ⟨inner, hinner⟩ := hlist (below n) fun c hc => ih c ((hbelow n).subset hc)
      exact ⟨_, .cons hinner .nil⟩
  exact hlist starts fun n _ => hone n

/-- **A traversal meets no node twice** if it starts with different nodes of one depth. -/
theorem nodup_of_traverses (h : TreeShaped d) (hbelow : ∀ n, (below n).Sublist (d.children n))
    (ht : Traverses below starts visited) (hnodup : starts.Nodup)
    (hdepth : ∀ s ∈ starts, d.HasDepth s k) : visited.Nodup := by
  have hl := h.linksAgree
  induction ht generalizing k with
  | nil => exact List.nodup_nil
  | @cons n rest inner outer hinner houter ihinner ihouter =>
    obtain ⟨hn, hrest⟩ := List.nodup_cons.1 hnodup
    have hkn := hdepth n List.mem_cons_self
    have hkrest : ∀ s ∈ rest, d.HasDepth s k := fun s hs => hdepth s (List.mem_cons_of_mem n hs)
    have hbelow_n : ∀ m ∈ inner, d.IsAncestor n m := fun m hm =>
      hl.isAncestor_of_traverses hbelow (hbelow n) hinner hm
    have hkbelow : ∀ c ∈ below n, d.HasDepth c (k + 1) := fun c hc =>
      .down (hl.parent?_eq_iff.2 ((hbelow n).subset hc)) hkn
    -- the subtree of the first node has nothing of the rest
    have hapart : ∀ m ∈ outer, ¬ d.InSubtree n m := by
      intro m hm hnm
      obtain ⟨s, hs, hsm⟩ := hl.exists_inSubtree_of_traverses hbelow houter hm
      obtain rfl := hsm.eq_of_hasDepth hnm (hkrest s hs) hkn
      exact hn hs
    refine List.nodup_cons.2 ⟨fun hm => ?_, List.nodup_append.2 ⟨?_, ihouter hrest hkrest, ?_⟩⟩
    · rcases List.mem_append.1 hm with hm | hm
      · exact h.not_isAncestor_self (hbelow_n n hm)
      · exact hapart n hm .refl
    · exact ihinner ((hbelow n).nodup (hl.nodup n)) hkbelow
    · rintro m hm _ hm' rfl
      exact hapart m hm' (hbelow_n m hm).inSubtree

/-- **A walk with a stack ends** if it starts with a node or with its children: it visits no node
twice, and besides the node only what lies below it. -/
theorem endsOnce_stackWalk (h : TreeShaped d) {β : Type} (note : β → NodeId → β) (noted : β)
    (hbelow : ∀ n, (below n).Sublist (d.children n))
    (hstarts : starts = [n] ∨ starts = d.children n) (ht : Traverses below starts visited) :
    (stackWalk below note starts noted).EndsOnce d n (visited.foldl note noted) := by
  have hl := h.linksAgree
  obtain ⟨k, hk⟩ := h.exists_hasDepth n
  have hsubtree : ∀ m, d.InSubtree n m → m = n ∨ m < d.size := by
    intro m hm
    exact (inSubtree_iff.1 hm).imp_right hl.lt_size_of_isAncestor
  refine ⟨visited, ht.ends noted, ?_, fun m hm => hsubtree m ?_⟩
  · rcases hstarts with rfl | rfl
    · exact h.nodup_of_traverses hbelow ht (List.nodup_singleton n)
        (List.forall_mem_singleton.2 hk)
    · exact h.nodup_of_traverses hbelow ht (hl.nodup n) fun c hc =>
        .down (hl.parent?_eq_iff.2 hc) hk
  · rcases hstarts with rfl | rfl
    · obtain ⟨s, hs, hsm⟩ := hl.exists_inSubtree_of_traverses hbelow ht hm
      exact List.mem_singleton.1 hs ▸ hsm
    · exact (hl.isAncestor_of_traverses hbelow (List.Sublist.refl _) ht hm).inSubtree

end TreeShaped

end Document

end SelectorFinder.Dom
