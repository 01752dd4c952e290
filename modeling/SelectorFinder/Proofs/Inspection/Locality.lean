import SelectorFinder.Inspection.Inspector
import SelectorFinder.Proofs.Dom.Attaching
import SelectorFinder.Proofs.Inspection.Views

/-!
# Locality of Candidates

The candidates for an element change only if something is appended to the element itself or
to an element above it. Anywhere else a new node, of whatever kind, is out of sight: the
lists that the strategies look at, those of the element and of the elements above it, stay
as they are, and of the descendants only texts directly below an element without child
elements are looked at. A new document element or a new body may become the boundary, but
this is told from the elements on the way up only where the node was appended to one of them.

## Main results

* `defaultBoundary?_attach_iff`: the boundary as it is told from the way up.
* `untouched_simulation`: an element before and after looks alike.
* `candidates_attach`: the candidates are the same before and after.
-/

namespace SelectorFinder.Inspection

open SelectorFinder.Dom SelectorFinder.Dom.Document

variable {d : Document} {parent n : NodeId} {kind : NodeKind} {v w : Vicinity}

/-- **The default boundary** is the same node as before, or neither before nor after one of
the nodes that were there, apart from the one that was appended to. -/
theorem defaultBoundary?_attach_iff (hl : d.LinksAgree) (hp : parent < d.size) (kind : NodeKind)
    {c : NodeId} (hc : c < d.size) (hne : c ≠ parent) :
    Inspector.defaultBoundary? (d.attach parent kind) = some c ↔
      Inspector.defaultBoundary? d = some c := by
  rw [Inspector.defaultBoundary?, Inspector.defaultBoundary?, Option.or_eq_some_iff,
    Option.or_eq_some_iff, body?_attach_iff hl hp kind hc, documentElement?_attach_iff hl hp kind hc]
  refine or_congr_right (and_congr_left fun htop => ?_)
  -- the document element was not appended to, so it lists what it listed before
  have htop' := (documentElement?_attach_iff hl hp kind hc).2 htop
  rw [body?_eq_none_iff htop, body?_eq_none_iff htop', elementChildren_attach hl hp hne]
  refine forall₂_congr fun m hm => ?_
  rw [isBody_attach parent kind (hl.lt_size (mem_elementChildren.1 hm).1)]

/-- Vicinities of the same element at the same node, before and after. -/
structure SameNode (v w : Vicinity) : Prop where
  node : v.node = w.node
  sameElement : SameElement v w

/-- **An element that is not touched** by a new node: neither it nor an element above it is
the node's parent. Both boundaries are told from the nodes that were there in the same way,
apart from the parent. -/
structure Untouched (d : Document) (parent : NodeId) (kind : NodeKind) (v w : Vicinity) :
    Prop where
  left : v.document = d
  right : w.document = d.attach parent kind
  genuine : v.Genuine
  node : w.node = v.node
  element : w.element = v.element
  ne : v.node ≠ parent
  notAbove : ¬ d.IsElementAncestor parent v.node
  boundary : ∀ c < d.size, c ≠ parent → (v.boundary = some c ↔ w.boundary = some c)

namespace Untouched

/-- An untouched node was there before. -/
theorem lt_size (h : Untouched d parent kind v w) : v.node < d.size :=
  h.left ▸ h.genuine.lt_size

/-- The element is genuine after, too. -/
theorem genuine_right (h : Untouched d parent kind v w) : w.Genuine := by
  have hv : v.document.element? v.node = some v.element := h.genuine
  rw [Vicinity.Genuine, h.right, h.node, h.element, element?_attach parent kind h.lt_size, ← h.left,
    hv]

/-- An untouched node is the boundary or not, as it was before. -/
theorem isBoundary_eq (h : Untouched d parent kind v w) : v.isBoundary = w.isBoundary := by
  rw [Vicinity.isBoundary, Vicinity.isBoundary, Bool.eq_iff_iff, beq_iff_eq, beq_iff_eq, h.node]
  exact h.boundary v.node h.lt_size h.ne

/-- An untouched node is the document element or not, as it was before. -/
theorem isDocumentElement_eq (hl : d.LinksAgree) (hp : parent < d.size)
    (h : Untouched d parent kind v w) : v.isDocumentElement = w.isDocumentElement := by
  rw [Vicinity.isDocumentElement, Vicinity.isDocumentElement, Bool.eq_iff_iff, beq_iff_eq,
    beq_iff_eq, h.node, h.left, h.right]
  exact (documentElement?_attach_iff hl hp kind h.lt_size).symm

/-- A node that was there is the same element before and after. -/
theorem other? (h : Untouched d parent kind v w) {c : NodeId} (hc : c < d.size) :
    Option.Rel SameNode (v.other? c) (w.other? c) := by
  rw [Vicinity.other?, Vicinity.other?, Vicinity.at?, Vicinity.at?, h.left, h.right,
    element?_attach parent kind hc]
  cases d.element? c with
  | none => exact .none
  | some e => exact .some ⟨rfl, rfl⟩

/-- **The parent is not touched either.** -/
theorem parent? (hd : d.TreeShaped) (h : Untouched d parent kind v w) :
    Option.Rel (Untouched d parent kind) v.parent? w.parent? := by
  rw [Vicinity.parent?, Vicinity.parent?, h.left, h.right, h.node,
    parentElement?_attach hd h.lt_size]
  cases hm : d.parentElement? v.node with
  | none => exact .none
  | some p =>
    have hlt : p < d.size := hd.built.linked.lt_of_parent? (parentElement?_eq_some_iff.1 hm).1
    rw [Option.bind_some, Option.bind_some]
    rcases rel_cases (h.other? hlt) with ⟨h₁, h₂⟩ | ⟨x, y, h₁, h₂, hxy⟩
    · rw [h₁, h₂]
      exact .none
    · obtain ⟨hx, hnode⟩ := Vicinity.other?_eq_some_iff.1 h₁
      obtain ⟨hy, -⟩ := Vicinity.other?_eq_some_iff.1 h₂
      rw [h₁, h₂]
      refine .some ⟨hx.document.trans h.left, hy.document.trans h.right, hx.genuine,
        hxy.node.symm, hxy.sameElement.symm, ?_, ?_, ?_⟩
      · rintro rfl
        exact h.notAbove (.single (hnode ▸ hm))
      · exact fun ha => h.notAbove (ha.tail (hnode ▸ hm))
      · rw [hx.boundary, hy.boundary]
        exact h.boundary

/-- The element before an untouched node stays the same. -/
theorem previous? (hd : d.TreeShaped) (hp : parent < d.size) (hk : kind ≠ .document)
    (h : Untouched d parent kind v w) : Option.Rel SameNode v.previous? w.previous? := by
  rw [Vicinity.previous?, Vicinity.previous?, h.left, h.right, h.node,
    previousElement?_attach hd hp hk h.lt_size]
  cases hm : d.previousElement? v.node with
  | none => exact .none
  | some m =>
    have hlt : m < d.size := by
      obtain ⟨e, he⟩ := isElement_iff.1 (isElement_of_elementBackFrom hm)
      exact (show Vicinity.Genuine ⟨d, none, m, e⟩ from he).lt_size
    exact h.other? hlt

/-- **The children** are the same: nothing was appended to the element. -/
theorem children (hl : d.LinksAgree) (hp : parent < d.size) (h : Untouched d parent kind v w) :
    List.Forall₂ SameNode v.children w.children := by
  have hsame : List.Forall₂ (fun c c' => c = c' ∧ c < d.size) (d.elementChildren v.node)
      (d.elementChildren v.node) :=
    List.forall₂_same.2 fun c hc => ⟨rfl, hl.lt_size (mem_elementChildren.1 hc).1⟩
  rw [Vicinity.children, Vicinity.children, h.left, h.right, h.node,
    elementChildren_attach hl hp h.ne]
  refine List.rel_filterMap (fun c c' hc => ?_) hsame
  obtain ⟨rfl, hlt⟩ := hc
  exact h.other? hlt

/-- **The siblings** are the same: nothing was appended to the parent, if that is an element. -/
theorem siblings (hd : d.TreeShaped) (hp : parent < d.size) (h : Untouched d parent kind v w) :
    List.Forall₂ SameNode v.siblings w.siblings := by
  rcases rel_cases (h.parent? hd) with ⟨h₁, h₂⟩ | ⟨p₁, p₂, h₁, h₂, hparent⟩
  · rw [Vicinity.siblings_of_parent?_eq_none h₁, Vicinity.siblings_of_parent?_eq_none h₂]
    exact .nil
  · rw [Vicinity.siblings_of_parent? h₁, Vicinity.siblings_of_parent? h₂]
    exact hparent.children hd.linksAgree hp

/-- **Whether there is text** is told from the texts among the children, where there are no
child elements. -/
theorem hasText_eq (hd : d.TreeShaped) (hp : parent < d.size) (hk : kind ≠ .document)
    (h : Untouched d parent kind v w) (h₁ : v.children = []) (h₂ : w.children = []) :
    v.hasText = w.hasText := by
  have hl := hd.linksAgree
  have hl₁ : v.document.LinksAgree := h.left ▸ hl
  have hl₂ : w.document.LinksAgree := h.right ▸ (hd.attach hp hk).linksAgree
  have hfalse : v.hasText = false ↔ w.hasText = false := by
    rw [Vicinity.hasText_eq_false_iff hl₁ h.genuine h₁,
      Vicinity.hasText_eq_false_iff hl₂ h.genuine_right h₂, h.left, h.right, h.node,
      children_attach hp, if_neg h.ne]
    refine forall₂_congr fun c hc => ?_
    rw [text?_attach parent kind (hl.lt_size hc)]
  cases ht : w.hasText with
  | false => exact hfalse.2 ht
  | true => simpa [ht] using hfalse

end Untouched

/-- **Being out of reach of a new node** is kept by all that is looked at on the way up. -/
theorem untouched_simulation (hd : d.TreeShaped) (hp : parent < d.size) (hk : kind ≠ .document) :
    Simulation (Untouched d parent kind) where
  sameElement h := h.element.symm
  isBoundary_eq h := h.isBoundary_eq
  isDocumentElement_eq h := h.isDocumentElement_eq hd.linksAgree hp
  parent? h := h.parent? hd
  previous? h := rel_imp (h.previous? hd hp hk) fun _ _ hw => hw.sameElement
  children h := (h.children hd.linksAgree hp).imp fun _ _ hc => hc.sameElement
  siblings h := (h.siblings hd hp).imp fun _ _ hw => ⟨hw.sameElement, by rw [hw.node, h.node]⟩
  hasText_eq h := h.hasText_eq hd hp hk

/-- An element that is not touched has the same candidates before and after, whatever the
boundaries are, as long as they are told alike from the nodes that were there. -/
theorem candidates_attach_of_boundary (hd : d.TreeShaped) (hp : parent < d.size)
    (hn : d.isElement n) (hne : parent ≠ n) (hnot : ¬ d.IsElementAncestor parent n)
    (hk : kind ≠ .document) {b b' : Option NodeId}
    (hb : ∀ c < d.size, c ≠ parent → (b = some c ↔ b' = some c)) (choices : Choices) :
    (Inspector.mk (d.attach parent kind) b' choices).candidates n =
      (Inspector.mk d b choices).candidates n := by
  obtain ⟨e, he⟩ := isElement_iff.1 hn
  have hlt : n < d.size := (show Vicinity.Genuine ⟨d, b, n, e⟩ from he).lt_size
  have huntouched : Untouched d parent kind ⟨d, b, n, e⟩ ⟨d.attach parent kind, b', n, e⟩ :=
    ⟨rfl, rfl, he, rfl, rfl, hne.symm, hnot, hb⟩
  obtain ⟨k, hk', hdepth⟩ := hd.exists_hasDepth_lt n
  have hcandidates := (untouched_simulation hd hp hk).candidates_eq huntouched hdepth hk'
    (show k < (d.attach parent kind).size by
      rw [size_attach]
      exact Nat.lt_succ_of_lt hk')
  simp only [Inspector.candidates, Vicinity.at?, element?_attach parent kind hlt, he,
    Option.map_some, hcandidates]

/-- **Candidates are local.** Let a new node of any kind be appended to a node of a
tree-shaped document. Then no element other than this node and those below it through elements
gets other candidates, neither with the default boundary, which is looked up anew, nor with a
fixed one. The node may be the document, the document element or one below the element. -/
theorem candidates_attach (hd : d.TreeShaped) (hp : parent < d.size) (hn : d.isElement n)
    (hne : parent ≠ n) (hnot : ¬ d.IsElementAncestor parent n) (hk : kind ≠ .document) :
    (d.create kind).1.append? parent (d.create kind).2 = some (d.attach parent kind) ∧
      (d.attach parent kind).TreeShaped ∧
      (∀ choices, (Inspector.ofDocument (d.attach parent kind) choices).candidates n =
        (Inspector.ofDocument d choices).candidates n) ∧
      ∀ boundary choices, (Inspector.mk (d.attach parent kind) boundary choices).candidates n =
        (Inspector.mk d boundary choices).candidates n := by
  refine ⟨append?_eq_some_iff.2 ⟨⟨?_, ?_⟩, rfl⟩, hd.attach hp hk, fun choices => ?_,
    fun boundary choices => ?_⟩
  · rw [size_create]
    exact Nat.lt_succ_of_lt hp
  · rw [size_create]
    exact Nat.lt_succ_self _
  · exact candidates_attach_of_boundary hd hp hn hne hnot hk
      (fun c hc hcp => (defaultBoundary?_attach_iff hd.linksAgree hp kind hc hcp).symm) choices
  · exact candidates_attach_of_boundary hd hp hn hne hnot hk (fun _ _ _ => Iff.rfl) choices

/-- A second element below the document node changes nothing for the first control of the
sample form, and an element in this control changes nothing for the form around it. -/
theorem candidates_attach_formPage :
    (∀ choices, (Inspector.ofDocument
        (formPage.attach 0 (.element ⟨"body", .empty⟩)) choices).candidates 4 =
      (Inspector.ofDocument formPage choices).candidates 4) ∧
    ∀ boundary choices, (Inspector.mk
        (formPage.attach 4 (.element ⟨"b", .empty⟩)) boundary choices).candidates 3 =
      (Inspector.mk formPage boundary choices).candidates 3 := by
  have hroot : ¬ formPage.IsElementAncestor 0 4 := by
    intro h
    obtain ⟨c, hc, -⟩ := Relation.TransGen.head'_iff.1 h
    exact absurd (parentElement?_eq_some_iff.1 hc).2 (by decide)
  have hbelow : ¬ formPage.IsElementAncestor 4 3 := by
    intro h
    obtain ⟨c, hc, -⟩ := Relation.TransGen.head'_iff.1 h
    have hm := treeShaped_formPage.linksAgree.parent?_eq_iff.1 (parentElement?_eq_some_iff.1 hc).1
    have hnone : formPage.children 4 = [] := by decide
    exact List.not_mem_nil (hnone ▸ hm)
  exact ⟨(candidates_attach treeShaped_formPage (by decide) (by decide) (by decide) hroot
      (by decide)).2.2.1,
    (candidates_attach treeShaped_formPage (by decide) (by decide) (by decide) hbelow
      (by decide)).2.2.2⟩

end SelectorFinder.Inspection
