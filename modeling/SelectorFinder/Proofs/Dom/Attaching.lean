import Mathlib.Data.List.Find
import SelectorFinder.Proofs.Dom.Building
import SelectorFinder.Proofs.Dom.Siblings

/-!
# What a New Node Changes

Making a node and appending it to another one changes a single list: that of the children of
its parent, at the end. Every node that was there keeps its kind, its parent and the element
before it. Of the readers that pick one node out of a list of children, those of the document
element and of the body, each gives the node that it gave before, if any; only where there was
none it may give the new node.

## Main results

* `elementChildren_attach`, `parentElement?_attach`, `previousElement?_attach`: the elements
  around a node that was there.
* `documentElement?_attach_iff`, `body?_attach_iff`: the elements of the page itself.
-/

namespace SelectorFinder.Dom.Document

variable {d : Document} {parent n c : NodeId} {kind : NodeKind}

/-! ### The nodes -/

/-- A new node is of its kind, and no other node is of another kind than before. -/
theorem kind?_attach (d : Document) (parent : NodeId) (kind : NodeKind) (n : Nat) :
    (d.attach parent kind).kind? n = if n = d.size then some kind else d.kind? n := by
  rw [attach, kind?_link, kind?_create]

/-- A new node is listed last by its parent, and has no children itself. -/
theorem children_attach (hp : parent < d.size) (n : Nat) :
    (d.attach parent kind).children n =
      if n = parent then d.children n ++ [d.size] else d.children n := by
  have hp' : parent < (d.create kind).1.size := by
    rw [size_create]
    exact Nat.lt_succ_of_lt hp
  rw [attach, children_link hp', children_create]

/-- The number of nodes has no children. -/
theorem children_size (d : Document) : d.children d.size = [] := by
  rw [children, node?_size]

/-- What has a child is a node of the document. -/
theorem lt_size_of_mem_children (h : c ∈ d.children n) : n < d.size := by
  refine Nat.lt_of_not_le fun hle => ?_
  rw [children, node?_eq_none_iff.2 hle] at h
  exact List.not_mem_nil h

/-- A new node has its parent, and no other node has another parent than before. -/
theorem parent?_attach (d : Document) (parent : NodeId) (kind : NodeKind) (n : NodeId) :
    (d.attach parent kind).parent? n = if n = d.size then some parent else d.parent? n := by
  have hc : d.size < (d.create kind).1.size := by
    rw [size_create]
    exact Nat.lt_succ_self _
  rw [attach, parent?_link hc, parent?_create]

section Kept

variable (parent kind) (hn : n < d.size)
include hn

/-- No element changes when a node is attached. -/
theorem element?_attach : (d.attach parent kind).element? n = d.element? n := by
  rw [element?, element?, kind?_attach, if_neg (Nat.ne_of_lt hn)]

/-- No text changes. -/
theorem text?_attach : (d.attach parent kind).text? n = d.text? n := by
  rw [text?, text?, kind?_attach, if_neg (Nat.ne_of_lt hn)]

/-- No node becomes an element, or ceases to be one. -/
theorem isElement_attach : (d.attach parent kind).isElement n = d.isElement n := by
  rw [isElement, isElement, element?_attach parent kind hn]

end Kept

/-! ### The elements around a node -/

/-- An element may be new at the end of the list of the parent. -/
theorem exists_elementChildren_attach (hl : LinksAgree d) (hp : parent < d.size)
    (kind : NodeKind) (n : NodeId) :
    ∃ added : List NodeId, (∀ c ∈ added, c = d.size) ∧ (n ≠ parent → added = []) ∧
      (d.attach parent kind).elementChildren n = d.elementChildren n ++ added := by
  have hold : (d.children n).filter (d.attach parent kind).isElement = d.elementChildren n :=
    List.filter_congr fun c hc => isElement_attach parent kind (hl.lt_size hc)
  by_cases hn : n = parent
  · refine ⟨[d.size].filter (d.attach parent kind).isElement, fun c hc => ?_,
      fun hne => absurd hn hne, ?_⟩
    · exact List.mem_singleton.1 (List.mem_filter.1 hc).1
    · rw [elementChildren, children_attach hp, if_pos hn, List.filter_append, hold]
  · refine ⟨[], by simp, fun _ => rfl, ?_⟩
    rw [elementChildren, children_attach hp, if_neg hn, hold, List.append_nil]

/-- **Only the parent lists other elements** than before. -/
theorem elementChildren_attach (hl : LinksAgree d) (hp : parent < d.size) (hn : n ≠ parent) :
    (d.attach parent kind).elementChildren n = d.elementChildren n := by
  obtain ⟨added, -, hnil, heq⟩ := exists_elementChildren_attach hl hp kind n
  rw [heq, hnil hn, List.append_nil]

/-- **The parent element** of a node that was there is the one that it had. -/
theorem parentElement?_attach (h : TreeShaped d) (hn : n < d.size) :
    (d.attach parent kind).parentElement? n = d.parentElement? n := by
  rw [parentElement?, parentElement?, parent?_attach, if_neg (Nat.ne_of_lt hn)]
  cases hp : d.parent? n with
  | none => rfl
  | some p =>
    rw [Option.filter_some, Option.filter_some,
      isElement_attach parent kind (h.built.linked.lt_of_parent? hp)]

/-- **The element before** a node that was there is the one that it had. -/
theorem previousElement?_attach (h : TreeShaped d) (hp : parent < d.size) (hk : kind ≠ .document)
    (hn : n < d.size) : (d.attach parent kind).previousElement? n = d.previousElement? n := by
  have hl := h.linksAgree
  have hl' := (h.attach hp hk).linksAgree
  have hparent : (d.attach parent kind).parent? n = d.parent? n := by
    rw [parent?_attach, if_neg (Nat.ne_of_lt hn)]
  cases hq : d.parent? n with
  | none =>
    rw [hl.previousElement?_eq_none hq, hl'.previousElement?_eq_none (hparent.trans hq)]
  | some q =>
    obtain ⟨before, after, hs⟩ := hl.exists_split hq
    obtain ⟨after', hs'⟩ : ∃ after',
        (d.attach parent kind).children q = before ++ n :: after' := by
      rw [children_attach hp]
      split
      · exact ⟨after ++ [d.size], by simp [hs]⟩
      · exact ⟨after, hs⟩
    have hbefore : before.filter (d.attach parent kind).isElement = before.filter d.isElement :=
      List.filter_congr fun c hc =>
        isElement_attach parent kind (hl.lt_size (hs ▸ List.mem_append_left _ hc))
    rw [hl.previousElement?_eq hs, hl'.previousElement?_eq hs', hbefore]

/-! ### The elements of the page itself -/

/-- **A pick out of the element children** gives a node that was there exactly if it did so
before. -/
theorem find?_elementChildren_attach_iff (hl : LinksAgree d) (hp : parent < d.size)
    {p q : NodeId → Bool} (hpq : ∀ c < d.size, p c = q c) (hc : c < d.size) :
    ((d.attach parent kind).elementChildren n).find? p = some c ↔
      (d.elementChildren n).find? q = some c := by
  obtain ⟨added, hadded, -, heq⟩ := exists_elementChildren_attach hl hp kind n
  have hnew : added.find? p ≠ some c := fun hfind =>
    Nat.ne_of_lt hc (hadded c (List.mem_of_find?_eq_some hfind))
  have hold : (d.elementChildren n).find? p = (d.elementChildren n).find? q :=
    List.find?_congr fun c hm => hpq c (hl.lt_size (mem_elementChildren.1 hm).1)
  rw [heq, List.find?_append, Option.or_eq_some_iff, hold]
  exact or_iff_left fun hnone => hnew hnone.2

/-- The document element stays the same among the nodes that were there. -/
theorem documentElement?_attach_iff (hl : LinksAgree d) (hp : parent < d.size)
    (kind : NodeKind) (hc : c < d.size) :
    (d.attach parent kind).documentElement? = some c ↔ d.documentElement? = some c := by
  have hhead : ∀ ns : List NodeId, ns.head? = ns.find? fun _ => true := by
    intro ns
    cases ns <;> rfl
  rw [documentElement?, documentElement?, hhead, hhead]
  exact find?_elementChildren_attach_iff hl hp (fun _ _ => rfl) hc

/-- Whether a node is a `body` or a `frameset`. -/
def isBody (d : Document) (n : NodeId) : Bool :=
  match d.element? n with
  | some e => e.hasTag "body" || e.hasTag "frameset"
  | none => false

/-- The body is the first element of that name in the document element. -/
theorem body?_eq_some_iff :
    d.body? = some c ↔ ∃ top, d.documentElement? = some top ∧
      (d.elementChildren top).find? d.isBody = some c :=
  Option.bind_eq_some_iff

/-- There is no body if no child of the document element is one. -/
theorem body?_eq_none_iff (htop : d.documentElement? = some n) :
    d.body? = none ↔ ∀ m ∈ d.elementChildren n, d.isBody m = false := by
  have hbody : d.body? = (d.elementChildren n).find? d.isBody := by
    rw [body?, htop]
    rfl
  rw [hbody, List.find?_eq_none]
  simp only [Bool.not_eq_true]

/-- No node becomes a body, or ceases to be one. -/
theorem isBody_attach (parent : NodeId) (kind : NodeKind) (hn : n < d.size) :
    (d.attach parent kind).isBody n = d.isBody n := by
  rw [isBody, isBody, element?_attach parent kind hn]

/-- A new document element has no body. -/
theorem body?_attach_iff (hl : LinksAgree d) (hp : parent < d.size) (kind : NodeKind)
    (hc : c < d.size) :
    (d.attach parent kind).body? = some c ↔ d.body? = some c := by
  rw [body?_eq_some_iff, body?_eq_some_iff]
  constructor
  · rintro ⟨top, htop, hfind⟩
    have hlt : top < d.size := by
      have hm := (mem_elementChildren.1 (List.mem_of_find?_eq_some hfind)).1
      rw [children_attach hp] at hm
      split at hm
      next heq => exact heq ▸ hp
      next => exact lt_size_of_mem_children hm
    exact ⟨top, (documentElement?_attach_iff hl hp kind hlt).1 htop,
      (find?_elementChildren_attach_iff hl hp (fun _ => isBody_attach parent kind) hc).1 hfind⟩
  · rintro ⟨top, htop, hfind⟩
    have hlt : top < d.size :=
      hl.lt_size (mem_elementChildren.1 (List.mem_of_head? htop)).1
    exact ⟨top, (documentElement?_attach_iff hl hp kind hlt).2 htop,
      (find?_elementChildren_attach_iff hl hp (fun _ => isBody_attach parent kind) hc).2 hfind⟩

end SelectorFinder.Dom.Document
