import Mathlib.Data.List.Find
import SelectorFinder.Proofs.Dom.Paths
import SelectorFinder.Proofs.Dom.Traversal

/-!
# The Listing of the Elements Below a Node

The elements below a node are listed in document order, each followed by those below it. Said
without a budget this is an equation between the listings of a node and of its element children
(`IsListing`), and in a tree-shaped document one function solves it. A walk with a stack, which
meets the nodes of other kinds as well, comes to the same list.

## Main results

* `TreeShaped.isListing_iff`: the listing of the walk with a budget is the one that solves the
  equation.
* `TreeShaped.listingWalk_endsOnce`: the walk with a stack ends with the same list.
* `TreeShaped.mem_descendantElements_iff_isReached`,
  `TreeShaped.pairwise_precedes_descendantElements`: which elements are listed, and in which
  order.
* `descendantElements_inOrder`: the listing as a whole, with the search for an id in it.
-/

namespace SelectorFinder.Dom.Document

variable {d : Document} {a b c n m p : NodeId} {k : Nat}

/-! ### The equation of a listing -/

/-- **Pre-order listings**: for a node, each element child in order, followed by its own
listing. -/
def IsListing (d : Document) (list : NodeId → List NodeId) : Prop :=
  ∀ n, list n = (d.elementChildren n).flatMap fun c => c :: list c

/-- Budgets for as many levels as there may be below the node make no difference. -/
theorem TreeShaped.elementsBelow_congr (h : TreeShaped d) {budget budget' : Nat}
    (hk : d.HasDepth n k) (hn : n < d.size) (hb : d.size ≤ k + budget)
    (hb' : d.size ≤ k + budget') : d.elementsBelow budget n = d.elementsBelow budget' n := by
  refine h.induction_budgets (P := fun b b' n => d.elementsBelow b n = d.elementsBelow b' n)
    (fun budget budget' n ih => ?_) hk hn hb hb'
  rw [elementsBelow, elementsBelow]
  refine List.flatMap_congr fun c hc => ?_
  rw [ih c (mem_elementChildren.1 hc).1]

/-- **The elements below a node are a listing.** -/
theorem TreeShaped.isListing_descendantElements (h : TreeShaped d) :
    d.IsListing d.descendantElements := by
  intro n
  obtain ⟨k, hk⟩ := h.exists_hasDepth n
  obtain ⟨size, hsize⟩ := Nat.exists_eq_add_one.2 h.built.linked.size_pos
  rw [descendantElements, hsize, elementsBelow]
  refine List.flatMap_congr fun c hc => ?_
  have hkc := h.linksAgree.hasDepth_elementChild hk hc
  rw [descendantElements, h.elementsBelow_congr hkc
    (h.linksAgree.lt_size (mem_elementChildren.1 hc).1) (by omega) (Nat.le_add_left _ _)]

/-- A listing is a traversal through element children. -/
theorem TreeShaped.traverses_of_isListing (h : TreeShaped d) {list : NodeId → List NodeId}
    (hlist : d.IsListing list) (n : NodeId) :
    Traverses d.elementChildren (d.elementChildren n) (list n) := by
  have hforest : ∀ cs : List NodeId,
      (∀ c ∈ cs, Traverses d.elementChildren (d.elementChildren c) (list c)) →
      Traverses d.elementChildren cs (cs.flatMap fun c => c :: list c) := by
    intro cs hcs
    induction cs with
    | nil => exact .nil
    | cons c cs ih =>
      rw [List.flatMap_cons, List.cons_append]
      exact .cons (hcs c List.mem_cons_self) (ih fun m hm => hcs m (List.mem_cons_of_mem c hm))
  induction n using h.induction_children with
  | step n ih =>
    rw [hlist n]
    exact hforest _ fun c hc => ih c (mem_elementChildren.1 hc).1

/-- **There is one listing** of a tree-shaped document. -/
theorem TreeShaped.isListing_iff (h : TreeShaped d) {list : NodeId → List NodeId} :
    d.IsListing list ↔ list = d.descendantElements := by
  constructor
  · intro hlist
    funext n
    exact (h.traverses_of_isListing hlist n).unique
      (h.traverses_of_isListing h.isListing_descendantElements n)
  · rintro rfl
    exact h.isListing_descendantElements

/-! ### The walk with a stack -/

/-- The nodes that the walk puts onto its stack for a node: the children, if it is an element. -/
def childrenOfElement (d : Document) (n : NodeId) : List NodeId :=
  if d.isElement n then d.children n else []

/-- Notes a node, if it is an element. -/
def noteElement (d : Document) (listed : List NodeId) (n : NodeId) : List NodeId :=
  if d.isElement n then listed ++ [n] else listed

/-- **The walk that lists the elements below a node**: it starts with the children on the stack,
the first one at the top; it notes the elements that it meets, and looks into elements only. -/
def listingWalk (d : Document) (n : NodeId) :
    Walk (NodeId × List NodeId × List NodeId) (List NodeId) :=
  stackWalk d.childrenOfElement d.noteElement (pushAll (d.children n).reverse []) []

/-- The children of an element are looked at in their order, those of another node not at all. -/
theorem childrenOfElement_sublist (d : Document) (n : NodeId) :
    (d.childrenOfElement n).Sublist (d.children n) := by
  rw [childrenOfElement]
  split
  next => exact List.Sublist.refl _
  next => exact List.nil_sublist _

/-- What is noted are the elements among the nodes met, in the order in which they are met. -/
theorem foldl_noteElement (visited listed : List NodeId) :
    visited.foldl d.noteElement listed = listed ++ visited.filter d.isElement := by
  induction visited generalizing listed with
  | nil => simp
  | cons n visited ih =>
    rw [List.foldl_cons, ih, noteElement]
    by_cases hn : d.isElement n <;> simp [hn]

/-- The elements met on a traversal that looks into elements only are a traversal themselves. -/
theorem traverses_filter_isElement {starts visited : List NodeId}
    (h : Traverses d.childrenOfElement starts visited) :
    Traverses d.elementChildren (starts.filter d.isElement) (visited.filter d.isElement) := by
  induction h with
  | nil => exact .nil
  | @cons n rest inner outer hinner _ ihinner ihouter =>
    by_cases hn : d.isElement n
    · rw [List.filter_cons_of_pos hn, List.filter_cons_of_pos hn, List.filter_append]
      rw [childrenOfElement, if_pos hn] at ihinner
      exact .cons ihinner ihouter
    · rw [childrenOfElement, if_neg hn] at hinner
      cases hinner
      rw [List.filter_cons_of_neg hn, List.filter_cons_of_neg hn, List.nil_append]
      exact ihouter

/-- **The walk with a stack lists the elements below the node**, and meets no node twice. -/
theorem TreeShaped.listingWalk_endsOnce (h : TreeShaped d) (n : NodeId) :
    (d.listingWalk n).EndsOnce d n (d.descendantElements n) := by
  obtain ⟨visited, hvisited⟩ := h.exists_traverses d.childrenOfElement_sublist (d.children n)
  have hlisted : visited.filter d.isElement = d.descendantElements n :=
    (traverses_filter_isElement hvisited).unique
      (h.traverses_of_isListing h.isListing_descendantElements n)
  have hends := h.endsOnce_stackWalk d.noteElement [] d.childrenOfElement_sublist (.inr rfl)
    hvisited
  rw [foldl_noteElement, List.nil_append, hlisted] at hends
  rw [listingWalk, pushAll_reverse, List.append_nil]
  exact hends

/-! ### Which elements are listed -/

/-- **What a listing reaches**: the elements below the node that have nothing but elements between
them and the node. -/
def IsReached (d : Document) (n m : NodeId) : Prop :=
  d.isElement m ∧ d.IsAncestor n m ∧ ∀ b, d.IsAncestor n b → d.IsAncestor b m → d.isElement b

/-- Nothing stands between a node and its child. -/
theorem TreeShaped.eq_of_isParent (h : TreeShaped d) (hc : d.IsParent n c)
    (hb : d.IsAncestor n b) (hbc : d.InSubtree b c) : b = c := by
  rcases inSubtree_iff.1 hbc with rfl | habove
  · rfl
  · obtain ⟨q, hbq, hq⟩ := Relation.TransGen.tail'_iff.1 habove
    obtain rfl := Option.some.inj (Eq.trans (Eq.symm hq) hc)
    exact absurd hbq (h.not_inSubtree_of_isAncestor hb)

/-- What is reached from a node is an element child or reached from one. -/
theorem TreeShaped.isReached_iff (h : TreeShaped d) :
    d.IsReached n m ↔ ∃ c ∈ d.elementChildren n, m = c ∨ d.IsReached c m := by
  have hl := h.linksAgree
  constructor
  · rintro ⟨hm, hnm, hbetween⟩
    obtain ⟨c, hc, hcm⟩ := hnm.exists_child
    have hchild := hl.parent?_eq_iff.1 hc
    rcases inSubtree_iff.1 hcm with rfl | hcm
    · exact ⟨m, mem_elementChildren.2 ⟨hchild, hm⟩, .inl rfl⟩
    · have helement := hbetween c (.single hc) hcm
      exact ⟨c, mem_elementChildren.2 ⟨hchild, helement⟩,
        .inr ⟨hm, hcm, fun b hcb => hbetween b (.head hc hcb)⟩⟩
  · rintro ⟨c, hchild, hm⟩
    obtain ⟨hmem, helement⟩ := mem_elementChildren.1 hchild
    have hc : d.IsParent n c := hl.parent?_eq_iff.2 hmem
    rcases hm with rfl | ⟨hm, hcm, hbetween⟩
    · refine ⟨helement, .single hc, fun b hnb hbm => ?_⟩
      obtain rfl := h.eq_of_isParent hc hnb hbm.inSubtree
      exact helement
    · refine ⟨hm, .head hc hcm, fun b hnb hbm => ?_⟩
      rcases hcm.inSubtree.total hbm.inSubtree with hcb | hbc
      · rcases inSubtree_iff.1 hcb with rfl | hcb
        · exact helement
        · exact hbetween b hcb hbm
      · obtain rfl := h.eq_of_isParent hc hnb hbc
        exact helement

/-- **The elements below a node are those that are reached from it.** -/
theorem TreeShaped.mem_descendantElements_iff_isReached (h : TreeShaped d) :
    m ∈ d.descendantElements n ↔ d.IsReached n m := by
  induction n using h.induction_children with
  | step n ih =>
    rw [h.isListing_descendantElements n, h.isReached_iff]
    simp only [List.mem_flatMap, List.mem_cons]
    refine exists_congr fun c => and_congr_right fun hc => or_congr_right ?_
    exact ih c (mem_elementChildren.1 hc).1

/-! ### The order of the listing -/

/-- An element child and all that is listed below it lie in its subtree. -/
theorem TreeShaped.inSubtree_of_mem_cons (h : TreeShaped d)
    (hm : m ∈ c :: d.descendantElements c) : d.InSubtree c m := by
  rcases List.mem_cons.1 hm with rfl | hm
  · exact .refl
  · exact (h.mem_descendantElements_iff_isReached.1 hm).2.1.inSubtree

/-- **The listing is in document order.** -/
theorem TreeShaped.pairwise_precedes_descendantElements (h : TreeShaped d) (n : NodeId) :
    (d.descendantElements n).Pairwise d.Precedes := by
  have hl := h.linksAgree
  induction n using h.induction_children with
  | step n ih =>
    rw [h.isListing_descendantElements n]
    refine List.pairwise_flatMap.2 ⟨fun c hc => ?within, ?between⟩
    case within =>
      refine List.pairwise_cons.2 ⟨fun m hm => ?_, ih c (mem_elementChildren.1 hc).1⟩
      exact .above (h.mem_descendantElements_iff_isReached.1 hm).2.1
    case between =>
      refine ((h.pairwise_idxOf_children n).filter _).imp_of_mem fun {x y} hx hy hlt a ha b hb => ?_
      have hpx : d.IsParent n x := hl.parent?_eq_of_mem_elementChildren hx
      have hpy : d.IsParent n y := hl.parent?_eq_of_mem_elementChildren hy
      exact .aside hpx hpy hlt (h.inSubtree_of_mem_cons ha) (h.inSubtree_of_mem_cons hb)

/-! ### The search for an id -/

/-- The node is an element whose `id` attribute is the given one, which is not empty. -/
def BearsId (d : Document) (id : String) (n : NodeId) : Prop :=
  ∃ e, d.element? n = some e ∧ e.attributes.get? "id" = some id ∧ id ≠ ""

/-- The id of a node can be compared. -/
instance (d : Document) (id : String) (n : NodeId) : Decidable (d.BearsId id n) :=
  decidable_of_iff (∃ e ∈ d.element? n, e.attributes.get? "id" = some id ∧ id ≠ "") <| by
    simp [BearsId]

/-- The search for an id tests for it. -/
theorem findById?_eq (d : Document) (id : String) :
    d.findById? id = (d.descendantElements root).find? fun n => d.BearsId id n := by
  rw [findById?]
  refine List.find?_congr fun n _ => ?_
  rw [Bool.eq_iff_iff, decide_eq_true_eq, BearsId]
  cases d.element? n with
  | none => simp
  | some e => simp [Element.id?, Option.filter_eq_some_iff]

/-- **The first element with the id** in document order is found. -/
theorem findById?_eq_some_iff {id : String} :
    d.findById? id = some n ↔ ∃ before after, d.descendantElements root = before ++ n :: after ∧
      d.BearsId id n ∧ ∀ m ∈ before, ¬ d.BearsId id m := by
  rw [findById?_eq, List.find?_eq_some_iff_append]
  simp only [decide_eq_true_eq, Bool.not_eq_true', decide_eq_false_iff_not]
  constructor
  · rintro ⟨hn, before, after, hs, hbefore⟩
    exact ⟨before, after, hs, hn, hbefore⟩
  · rintro ⟨before, after, hs, hn, hbefore⟩
    exact ⟨hn, before, after, hs, hbefore⟩

/-- None is found if no element below the document node has the id. -/
theorem findById?_eq_none_iff {id : String} :
    d.findById? id = none ↔ ∀ m ∈ d.descendantElements root, ¬ d.BearsId id m := by
  rw [findById?_eq, List.find?_eq_none]
  simp only [decide_eq_true_eq]

/-- **The listing of the elements below a node.** In a tree-shaped document one function lists for
every node each element child followed by its own listing, and it is the one that is computed; a
walk with a stack ends with the same list. No element is listed twice and no node is listed below
itself; the elements listed are those below the node with nothing but elements between, and of two
of them the one that comes first in document order is listed first. The search for an id finds
the first element listed below the document node that bears it, and nothing if none does; no
element bears the empty one. -/
theorem descendantElements_inOrder (h : TreeShaped d) :
    (∀ list, d.IsListing list ↔ list = d.descendantElements) ∧
    (∀ n, ∃ visited, (d.listingWalk n).Ends visited (d.descendantElements n)) ∧
    (∀ n, (n :: d.descendantElements n).Nodup ∧
      (∀ m, m ∈ d.descendantElements n ↔ d.IsReached n m) ∧
      ∀ a ∈ d.descendantElements n, ∀ b ∈ d.descendantElements n,
        (d.descendantElements n).idxOf a < (d.descendantElements n).idxOf b ↔
          d.Precedes a b) ∧
    (∀ id n, d.findById? id = some n ↔
      ∃ before after, d.descendantElements root = before ++ n :: after ∧
        d.BearsId id n ∧ ∀ m ∈ before, ¬ d.BearsId id m) ∧
    (∀ id, d.findById? id = none ↔ ∀ m ∈ d.descendantElements root, ¬ d.BearsId id m) ∧
    d.findById? "" = none := by
  refine ⟨fun _ => h.isListing_iff, fun n => ?walk, fun n => ⟨h.nodup_cons_descendantElements n,
    fun _ => h.mem_descendantElements_iff_isReached, fun a ha b hb => ?order⟩,
    fun _ _ => findById?_eq_some_iff, fun _ => findById?_eq_none_iff, ?empty⟩
  case walk =>
    obtain ⟨visited, hends, -⟩ := h.listingWalk_endsOnce n
    exact ⟨visited, hends⟩
  case order =>
    exact h.idxOf_lt_iff_precedes (h.pairwise_precedes_descendantElements n) ha hb
  case empty =>
    refine findById?_eq_none_iff.2 fun m _ => ?_
    rintro ⟨e, -, -, hne⟩
    exact hne rfl

/-- Two elements with one id, of which the one made first is appended last. Between them stand an
element with an empty id and a comment that has an element below it. -/
def twoMarks : Document :=
  (((empty.create (.element ⟨"html", .empty⟩)).1.create
      (.element ⟨"b", .ofList [("id", "mark")]⟩)).1
    |>.attach 1 (.element ⟨"p", .ofList [("id", "")]⟩)
    |>.attach 3 (.element ⟨"i", .ofList [("id", "mark")]⟩)
    |>.attach 1 (.comment "between")
    |>.attach 5 (.element ⟨"s", .empty⟩)
    |>.link 1 2).link 0 1

/-- The document with the two marks is tree-shaped. -/
theorem treeShaped_twoMarks : TreeShaped twoMarks := by
  have hsize : empty.size = 1 := rfl
  have hmade : TreeShaped ((empty.create (.element ⟨"html", .empty⟩)).1.create
      (.element ⟨"b", .ofList [("id", "mark")]⟩)).1 :=
    (TreeShaped.empty.create _ (by simp)).create _ (by simp)
  rw [twoMarks]
  refine .link_top (.link_top (.attach (.attach (.attach (.attach hmade ?_ ?_) ?_ ?_) ?_ ?_) ?_ ?_)
    ?_ ?_ ?_ (by decide +kernel) ?_ (by decide +kernel)) ?_ ?_ ?_ (by decide +kernel) ?_
    (by decide +kernel) <;> simp [hsize, root]

/-- The element appended last is listed last, though it was made before the others; what is below
the comment is listed for the comment only; and the search finds the mark that is listed first. -/
theorem descendantElements_inOrder_twoMarks :
    TreeShaped twoMarks ∧ twoMarks.descendantElements 1 = [3, 4, 2] ∧
      (1 :: twoMarks.descendantElements 1).Nodup ∧
      twoMarks.Precedes 4 2 ∧ ¬ twoMarks.IsReached 1 6 ∧ twoMarks.IsReached 5 6 ∧
      twoMarks.findById? "mark" = some 4 ∧
      ¬ twoMarks.BearsId "" 3 := by
  obtain ⟨-, -, hlisted, hfound, hmissing, hempty⟩ :=
    descendantElements_inOrder treeShaped_twoMarks
  have hone : twoMarks.descendantElements 1 = [3, 4, 2] := by decide +kernel
  have hfive : twoMarks.descendantElements 5 = [6] := by decide +kernel
  have hroot : twoMarks.descendantElements root = [1, 3, 4, 2] := by decide +kernel
  obtain ⟨hnodup, hreached, horder⟩ := hlisted 1
  refine ⟨treeShaped_twoMarks, hone, hnodup, ?_, ?_, ?_, ?_, ?_⟩
  · refine (horder 4 ?_ 2 ?_).1 ?_ <;> rw [hone] <;> decide
  · rw [← hreached, hone]
    decide
  · rw [← (hlisted 5).2.1, hfive]
    decide
  · exact (hfound "mark" 4).2 ⟨[1, 3], [2], hroot, by decide +kernel, by decide +kernel⟩
  · exact (hmissing "").1 hempty 3 (by rw [hroot]; decide)

end SelectorFinder.Dom.Document
