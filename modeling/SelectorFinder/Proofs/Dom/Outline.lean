import Mathlib.Data.List.Forall2
import SelectorFinder.Proofs.Dom.Building

/-!
# Outlines

A document read as an ordered tree: what is below the document node, with elements, texts and
comments as its parts. The number of a node is no part of its outline, so documents that were
built in different orders may have the same one.

`Document.outline` reads with a budget of as many levels as there are nodes. `Shows` says
without a budget which tree stands at a node, and in a tree-shaped document the two agree
(`TreeShaped.shows_outline`).
-/

namespace SelectorFinder.Dom

/-- A part of a document with all that lies below it. -/
inductive Branch where
  | element (element : Element) (children : List Branch)
  | text (data : String)
  | comment (data : String)
  deriving Repr

namespace Document

variable {d : Document} {n : NodeId}

/-- The part of the document that stands at a node, down to a number of levels; none at the
document node, and none where there is no node. -/
def branch? (d : Document) : Nat → NodeId → Option Branch
  | 0, _ => none
  | budget + 1, n =>
    match d.kind? n with
    | some (.element e) => some (.element e ((d.children n).filterMap (d.branch? budget)))
    | some (.text data) => some (.text data)
    | some (.comment data) => some (.comment data)
    | _ => none

/-- **The outline**: the parts of the document below the document node. -/
def outline (d : Document) : List Branch :=
  (d.children root).filterMap (d.branch? d.size)

/-- The nodes below a node, each followed by those below it, down to a number of levels. -/
def nodesBelow (d : Document) : Nat → NodeId → List NodeId
  | 0, _ => []
  | budget + 1, n => (d.children n).flatMap fun child => child :: d.nodesBelow budget child

/-- A node that is listed below another one is among somebody's children. -/
theorem exists_mem_children_of_mem_nodesBelow {budget : Nat} {m : NodeId}
    (h : m ∈ d.nodesBelow budget n) : ∃ p, m ∈ d.children p := by
  induction budget generalizing n with
  | zero => simp [nodesBelow] at h
  | succ budget ih =>
    obtain ⟨c, hc, hm⟩ := List.mem_flatMap.1 h
    rcases List.mem_cons.1 hm with rfl | hm
    · exact ⟨n, hc⟩
    · exact ih hm

/-- **What stands at a node**: an element with what its children show, a text or a comment. -/
inductive Shows (d : Document) : NodeId → Branch → Prop
  | element {n : NodeId} {e : Element} {parts : List Branch} :
      d.kind? n = some (.element e) → List.Forall₂ (Shows d) (d.children n) parts →
      Shows d n (.element e parts)
  | text {n : NodeId} {data : String} : d.kind? n = some (.text data) → Shows d n (.text data)
  | comment {n : NodeId} {data : String} :
      d.kind? n = some (.comment data) → Shows d n (.comment data)

/-- A list read part by part, of which every part is found. -/
theorem forall₂_filterMap {R : NodeId → Branch → Prop} {read : NodeId → Option Branch}
    {ns : List NodeId} (h : ∀ n ∈ ns, ∃ b, read n = some b ∧ R n b) :
    List.Forall₂ R ns (ns.filterMap read) := by
  induction ns with
  | nil => exact .nil
  | cons n ns ih =>
    obtain ⟨b, hread, hb⟩ := h n List.mem_cons_self
    rw [List.filterMap_cons_some hread]
    exact .cons hb (ih fun m hm => h m (List.mem_cons_of_mem n hm))

namespace TreeShaped

/-- The document node is appended nowhere. -/
theorem parent?_root (h : TreeShaped d) : d.parent? root = none := by
  induction h with
  | empty => rfl
  | create kind _ _ ih => rw [parent?_create, ih]
  | append _ happend hroot _ _ _ ih =>
    obtain ⟨⟨-, hc⟩, rfl⟩ := append?_eq_some_iff.1 happend
    rw [parent?_link hc, if_neg (Ne.symm hroot), ih]

/-- The document node is nobody's child. -/
theorem ne_root_of_mem_children (h : TreeShaped d) {c p : NodeId} (hc : c ∈ d.children p) :
    c ≠ root := by
  rintro rfl
  have hparent := h.linksAgree.parent?_eq_iff.2 hc
  simp [h.parent?_root] at hparent

/-- Of a node as deep as the budget leaves levels, the reading is complete. -/
theorem exists_branch? (h : TreeShaped d) {budget k : Nat} (hk : d.HasDepth n k)
    (hn : n < d.size) (hroot : n ≠ root) (hb : d.size ≤ budget + k) :
    ∃ b, d.branch? budget n = some b ∧ d.Shows n b := by
  have hl := h.built.linked
  induction budget generalizing n k with
  | zero =>
    have := hk.lt_size hl hn
    omega
  | succ budget ih =>
    have hchildren : List.Forall₂ d.Shows (d.children n)
        ((d.children n).filterMap (d.branch? budget)) := by
      refine forall₂_filterMap fun c hc => ?_
      have hdepth : d.HasDepth c (k + 1) := .down (h.linksAgree.parent?_eq_iff.2 hc) hk
      exact ih hdepth (h.linksAgree.lt_size hc) (h.ne_root_of_mem_children hc) (by omega)
    rw [branch?]
    cases hkind : d.kind? n with
    | none =>
      have hle : d.size ≤ n := node?_eq_none_iff.1 (Option.map_eq_none_iff.1 hkind)
      exact absurd hn (Nat.not_lt.2 hle)
    | some kind =>
      cases kind with
      | document => exact absurd ((hl.kind?_eq_document_iff n).1 hkind) hroot
      | element e => exact ⟨_, rfl, .element hkind hchildren⟩
      | text data => exact ⟨_, rfl, .text hkind⟩
      | comment data => exact ⟨_, rfl, .comment hkind⟩

/-- **The outline shows the document**: each part of it stands at the node it was read at. -/
theorem shows_outline (h : TreeShaped d) :
    List.Forall₂ d.Shows (d.children root) d.outline := by
  refine forall₂_filterMap fun c hc => ?_
  obtain ⟨k, hk⟩ := h.exists_hasDepth c
  exact h.exists_branch? hk (h.linksAgree.lt_size hc) (h.ne_root_of_mem_children hc) (by omega)

end TreeShaped

end Document

end SelectorFinder.Dom
