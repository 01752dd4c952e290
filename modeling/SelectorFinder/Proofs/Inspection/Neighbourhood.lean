import SelectorFinder.Inspection.Vicinity
import SelectorFinder.Proofs.Dom.Siblings

/-!
# The Neighbourhood in Terms of the Document

What a vicinity shows of the parent, the siblings and the children, said of the document it
looks into. A vicinity is genuine when its element is the one that stands at its node; every
vicinity that is looked up is, and so are its neighbours.

## Main results

* `at?_eq_some_iff`, `parent?_eq_some_iff`: when a vicinity is found.
* `map_node_children`, `map_node_siblings`, `map_node_sameTagSiblings`: the nodes of the
  neighbours.
* `placeIn?_of_split`: the place among some elements.
-/

namespace SelectorFinder

/-- The attributes of an element whose names start with `data-`, in order. -/
def Dom.Element.dataAttributes (e : Dom.Element) : List (String × String) :=
  e.attributes.toList.filter (·.1.startsWith "data-")

namespace Inspection.Vicinity

open SelectorFinder.Dom SelectorFinder.Text

/-- **Genuine vicinities**: the element is the one at the node. -/
def Genuine (v : Vicinity) : Prop :=
  v.document.element? v.node = some v.element

/-- The vicinity of another node, as `other?` looks for it. -/
structure IsNeighbour (v w : Vicinity) : Prop where
  document : w.document = v.document
  boundary : w.boundary = v.boundary
  genuine : w.Genuine

/-- **The vicinity of a node** is found exactly if the node is an element. -/
theorem at?_eq_some_iff {d : Document} {boundary : Option NodeId} {n : NodeId} {v : Vicinity} :
    at? d boundary n = some v ↔
      v.document = d ∧ v.boundary = boundary ∧ v.node = n ∧ v.Genuine := by
  rw [at?, Option.map_eq_some_iff]
  constructor
  · rintro ⟨e, he, rfl⟩
    exact ⟨rfl, rfl, rfl, he⟩
  · rintro ⟨rfl, rfl, rfl, hv⟩
    exact ⟨v.element, hv, rfl⟩

/-- A genuine vicinity is that of its node. -/
theorem Genuine.at?_eq {v : Vicinity} (h : v.Genuine) :
    at? v.document v.boundary v.node = some v :=
  at?_eq_some_iff.2 ⟨rfl, rfl, rfl, h⟩

/-- What is looked up is a neighbour at that node. -/
theorem other?_eq_some_iff {v w : Vicinity} {n : NodeId} :
    v.other? n = some w ↔ v.IsNeighbour w ∧ w.node = n := by
  rw [other?, at?_eq_some_iff]
  constructor
  · rintro ⟨hd, hb, hn, hw⟩
    exact ⟨⟨hd, hb, hw⟩, hn⟩
  · rintro ⟨⟨hd, hb, hw⟩, hn⟩
    exact ⟨hd, hb, hn, hw⟩

/-- An element of the document has a vicinity. -/
theorem exists_other? {v : Vicinity} {n : NodeId} (h : v.document.isElement n) :
    ∃ w, v.other? n = some w := by
  obtain ⟨e, he⟩ := Document.isElement_iff.1 h
  exact ⟨⟨v.document, v.boundary, n, e⟩, by rw [other?, at?, he, Option.map_some]⟩

/-- The node of a genuine vicinity is an element. -/
theorem Genuine.isElement {v : Vicinity} (h : v.Genuine) : v.document.isElement v.node :=
  Document.isElement_iff.2 ⟨v.element, h⟩

/-- The node of a genuine vicinity is one of the document. -/
theorem Genuine.lt_size {v : Vicinity} (h : v.Genuine) : v.node < v.document.size := by
  refine Nat.lt_of_not_le fun hle => ?_
  have hnone := Document.node?_eq_none_iff.2 hle
  have hv : v.document.element? v.node = some v.element := h
  simp [Document.element?, Document.kind?, hnone] at hv

namespace IsNeighbour

variable {v w : Vicinity}

/-- The element of a neighbour is the one at its node. -/
theorem element? (h : v.IsNeighbour w) : v.document.element? w.node = some w.element :=
  h.document ▸ h.genuine

/-- The node of a neighbour is an element. -/
theorem isElement (h : v.IsNeighbour w) : v.document.isElement w.node :=
  Document.isElement_iff.2 ⟨w.element, h.element?⟩

/-- A neighbour is the vicinity that its node has under the same boundary. -/
theorem at?_eq (h : v.IsNeighbour w) : at? v.document v.boundary w.node = some w :=
  at?_eq_some_iff.2 ⟨h.document, h.boundary, rfl, h.genuine⟩

/-- Neighbours of neighbours are neighbours. -/
theorem trans {u : Vicinity} (h : u.IsNeighbour v) (h' : v.IsNeighbour w) : u.IsNeighbour w :=
  ⟨h'.document.trans h.document, h'.boundary.trans h.boundary, h'.genuine⟩

end IsNeighbour

/-! ### The parent -/

variable {v p : Vicinity}

/-- **The parent** is the vicinity of the parent node, where that is an element. -/
theorem parent?_eq_some_iff :
    v.parent? = some p ↔ v.IsNeighbour p ∧ v.document.parent? v.node = some p.node := by
  rw [parent?, Option.bind_eq_some_iff]
  constructor
  · rintro ⟨m, hm, hp⟩
    obtain ⟨hw, rfl⟩ := other?_eq_some_iff.1 hp
    exact ⟨hw, (Document.parentElement?_eq_some_iff.1 hm).1⟩
  · rintro ⟨hp, hm⟩
    exact ⟨p.node, Document.parentElement?_eq_some_iff.2 ⟨hm, hp.isElement⟩,
      other?_eq_some_iff.2 ⟨hp, rfl⟩⟩

/-- There is a parent exactly if the parent node is an element. -/
theorem exists_parent?_iff :
    (∃ p, v.parent? = some p) ↔
      ∃ m, v.document.parent? v.node = some m ∧ v.document.isElement m := by
  constructor
  · rintro ⟨p, hp⟩
    obtain ⟨hp, hm⟩ := parent?_eq_some_iff.1 hp
    exact ⟨p.node, hm, hp.isElement⟩
  · rintro ⟨m, hm, he⟩
    obtain ⟨p, hp⟩ := exists_other? he
    obtain ⟨hw, rfl⟩ := other?_eq_some_iff.1 hp
    exact ⟨p, parent?_eq_some_iff.2 ⟨hw, hm⟩⟩

/-- The parent stands at the parent element of the node. -/
theorem map_node_parent? (v : Vicinity) :
    v.parent?.map Vicinity.node = v.document.parentElement? v.node := by
  refine Option.ext fun m => ?_
  rw [Option.map_eq_some_iff, Document.parentElement?_eq_some_iff]
  constructor
  · rintro ⟨p, hp, rfl⟩
    obtain ⟨hneighbour, hparent⟩ := parent?_eq_some_iff.1 hp
    exact ⟨hparent, hneighbour.isElement⟩
  · intro hm
    obtain ⟨p, hp⟩ := exists_parent?_iff.2 ⟨m, hm⟩
    exact ⟨p, hp, Option.some.inj ((parent?_eq_some_iff.1 hp).2.symm.trans hm.1)⟩

/-- The parent to start from is the parent, unless it is the boundary. -/
theorem anchor?_eq_some_iff :
    v.anchor? = some p ↔ v.parent? = some p ∧ v.boundary ≠ some p.node := by
  rw [anchor?, Option.filter_eq_some_iff]
  refine and_congr_right fun hp => ?_
  rw [← (parent?_eq_some_iff.1 hp).1.boundary]
  simp [isBoundary]

/-! ### The element before -/

/-- **The element before** is the vicinity of the closest element before the node. -/
theorem previous?_eq_some_iff :
    v.previous? = some p ↔
      v.IsNeighbour p ∧ v.document.previousElement? v.node = some p.node := by
  rw [previous?, Option.bind_eq_some_iff]
  constructor
  · rintro ⟨m, hm, hp⟩
    obtain ⟨hw, rfl⟩ := other?_eq_some_iff.1 hp
    exact ⟨hw, hm⟩
  · rintro ⟨hw, hm⟩
    exact ⟨p.node, hm, other?_eq_some_iff.2 ⟨hw, rfl⟩⟩

/-- There is an element before in the vicinity if there is one in the document. -/
theorem exists_previous?_iff :
    (∃ w, v.previous? = some w) ↔ ∃ m, v.document.previousElement? v.node = some m := by
  constructor
  · rintro ⟨w, hw⟩
    exact ⟨w.node, (previous?_eq_some_iff.1 hw).2⟩
  · rintro ⟨m, hm⟩
    obtain ⟨w, hw⟩ := exists_other? (Document.isElement_of_elementBackFrom hm)
    obtain ⟨hw', rfl⟩ := other?_eq_some_iff.1 hw
    exact ⟨w, previous?_eq_some_iff.2 ⟨hw', hm⟩⟩

/-! ### Children and siblings -/

/-- A list of vicinities looked up node by node has these nodes. -/
theorem map_node_filterMap_other? (v : Vicinity) {ns : List NodeId}
    (h : ∀ n ∈ ns, v.document.isElement n) :
    (ns.filterMap v.other?).map Vicinity.node = ns := by
  induction ns with
  | nil => rfl
  | cons n ns ih =>
    obtain ⟨w, hw⟩ := exists_other? (h n List.mem_cons_self)
    rw [List.filterMap_cons_some hw, List.map_cons, (other?_eq_some_iff.1 hw).2,
      ih fun m hm => h m (List.mem_cons_of_mem n hm)]

/-- **The children** are the element children of the node. -/
theorem map_node_children (v : Vicinity) :
    v.children.map Vicinity.node = v.document.elementChildren v.node :=
  map_node_filterMap_other? v fun _ hn => (Document.mem_elementChildren.1 hn).2

/-- Children are neighbours. -/
theorem isNeighbour_of_mem_children {c : Vicinity} (h : c ∈ v.children) : v.IsNeighbour c := by
  obtain ⟨_, _, hc⟩ := List.mem_filterMap.1 h
  exact (other?_eq_some_iff.1 hc).1

/-- The siblings are the children of the parent, the element itself among them. -/
theorem siblings_of_parent? (h : v.parent? = some p) : v.siblings = p.children := by
  rw [siblings, h]

/-- Without a parent there are no siblings. -/
theorem siblings_of_parent?_eq_none (h : v.parent? = none) : v.siblings = [] := by
  rw [siblings, h]

/-- **The siblings** are the element children of the parent. -/
theorem map_node_siblings (h : v.parent? = some p) :
    v.siblings.map Vicinity.node = v.document.elementChildren p.node := by
  rw [siblings_of_parent? h, map_node_children, (parent?_eq_some_iff.1 h).1.document]

/-- Siblings are neighbours. -/
theorem isNeighbour_of_mem_siblings {c : Vicinity} (h : c ∈ v.siblings) : v.IsNeighbour c := by
  cases hp : v.parent? with
  | none => simp [siblings_of_parent?_eq_none hp] at h
  | some p =>
    rw [siblings_of_parent? hp] at h
    exact (parent?_eq_some_iff.1 hp).1.trans (isNeighbour_of_mem_children h)

/-- A member of a list without repetition is not among those before it. -/
theorem exists_split_of_mem {ns : List NodeId} {n : NodeId} (hnodup : ns.Nodup) (hn : n ∈ ns) :
    ∃ before after, ns = before ++ n :: after ∧ n ∉ before := by
  obtain ⟨before, after, rfl⟩ := List.append_of_mem hn
  exact ⟨before, after, rfl, fun hm =>
    (List.nodup_append.1 hnodup).2.2 _ hm _ List.mem_cons_self rfl⟩

/-- Where there is a parent, a genuine vicinity stands among its siblings. -/
theorem mem_elementChildren_parent (hl : v.document.LinksAgree) (hv : v.Genuine)
    (h : v.parent? = some p) : v.node ∈ v.document.elementChildren p.node :=
  hl.mem_elementChildren_of_parent? (parent?_eq_some_iff.1 h).2 hv.isElement

/-- Whether a node is an element of the same tag as this one, up to case. -/
def sameTag (v : Vicinity) (n : NodeId) : Bool :=
  (v.document.element? n).any (·.hasTag v.element.tagName)

/-- An element has its own tag. -/
theorem sameTag_self (hv : v.Genuine) : v.sameTag v.node = true := by
  have hv' : v.document.element? v.node = some v.element := hv
  simp [sameTag, hv', Element.hasTag]

/-- **The siblings of the same tag** are those among the element children of the parent. -/
theorem map_node_sameTagSiblings (h : v.parent? = some p) :
    v.sameTagSiblings.map Vicinity.node =
      (v.document.elementChildren p.node).filter v.sameTag := by
  rw [← map_node_siblings h, List.filter_map, sameTagSiblings]
  congr 1
  refine List.filter_congr fun c hc => ?_
  simp [sameTag, (isNeighbour_of_mem_siblings hc).element?]

/-- Without a parent there are no siblings of the same tag either. -/
theorem sameTagSiblings_of_parent?_eq_none (h : v.parent? = none) : v.sameTagSiblings = [] := by
  rw [sameTagSiblings, siblings_of_parent?_eq_none h, List.filter_nil]

/-! ### Data attributes -/

/-- Neither the id nor the class is a `data-` attribute. -/
theorem dataAttributes_eq (v : Vicinity) : v.dataAttributes = v.element.dataAttributes := by
  have hdata : ∀ name : String, name.startsWith "data-" = true → name ≠ "id" ∧ name ≠ "class" := by
    intro name hp
    constructor <;> rintro rfl <;> exact absurd hp (by decide +kernel)
  rw [dataAttributes, attributes, List.filter_filter, Element.dataAttributes]
  refine List.filter_congr fun a _ => ?_
  cases hp : a.1.startsWith "data-" with
  | true => simp [hdata a.1 hp]
  | false => simp

/-! ### Text -/

/-- A text put together is blank exactly if its parts are. -/
theorem isBlankText_join_iff {texts : List String} :
    isBlankText (String.join texts) ↔ ∀ s ∈ texts, isBlankText s := by
  simp only [isBlankText, String.toList_join, List.all_eq_true, List.mem_flatMap]
  constructor
  · intro h s hs c hc
    exact h c ⟨s, hs, hc⟩
  · rintro h c ⟨s, hs, hc⟩
    exact h s hs c hc

/-- What a child that is no element adds to the text of its parent. -/
theorem textOf_of_not_isElement {d : Document} {n : NodeId} (h : d.isElement n = false)
    (budget : Nat) : d.textOf (budget + 1) n = (d.text? n).getD "" := by
  rw [Document.textOf, Document.text?]
  cases hk : d.kind? n with
  | none => rfl
  | some kind =>
    cases kind with
    | element e => simp [Document.isElement, Document.element?, hk] at h
    | _ => rfl

/-- **An element without child elements has text** exactly if one of its text children is not
blank. -/
theorem hasText_eq_false_iff (hl : v.document.LinksAgree) (hv : v.Genuine)
    (hc : v.children = []) :
    v.hasText = false ↔ ∀ c ∈ v.document.children v.node,
      ∀ data, v.document.text? c = some data → isBlankText data = true := by
  have hchild : ∀ c ∈ v.document.children v.node, v.document.textOf v.document.size c =
      (v.document.text? c).getD "" := by
    intro c hm
    have he : v.document.isElement c = false := by
      have hnone : v.document.elementChildren v.node = [] := by
        rw [← map_node_children, hc, List.map_nil]
      exact Bool.eq_false_iff.2 fun he =>
        List.not_mem_nil (hnone ▸ Document.mem_elementChildren.2 ⟨hm, he⟩)
    obtain ⟨budget, hb⟩ := Nat.exists_eq_add_one.2 (Nat.zero_lt_of_lt (hl.lt_size hm))
    rw [hb, textOf_of_not_isElement he]
  have hnotext : v.document.text? v.node = none := by
    have hv' : v.document.element? v.node = some v.element := hv
    rw [Document.element?] at hv'
    rw [Document.text?]
    split at hv'
    next he => rw [he]
    next => simp at hv'
  rw [hasText, Document.textContent, hnotext, Bool.not_eq_false', isBlankText_join_iff]
  simp only [List.mem_map, forall_exists_index, and_imp, forall_apply_eq_imp_iff₂]
  refine forall₂_congr fun c hm => ?_
  rw [hchild c hm]
  cases v.document.text? c with
  | none => simp [isBlankText]
  | some data => simp

/-! ### Places -/

/-- **The place** among some elements is one more than the number of those before. -/
theorem placeIn?_of_split {among : List Vicinity} {before after : List NodeId}
    (hs : among.map Vicinity.node = before ++ v.node :: after) (hn : v.node ∉ before) :
    v.placeIn? among = some (before.length + 1) := by
  have hidx : among.findIdx? (·.node == v.node) = some before.length := by
    calc among.findIdx? (·.node == v.node)
        = (among.map Vicinity.node).findIdx? (· == v.node) := by
          rw [List.findIdx?_map]
          rfl
      _ = some before.length := by
          have hnone : before.findIdx? (· == v.node) = none := by
            refine List.findIdx?_eq_none_iff.2 fun m hm => beq_false_of_ne ?_
            rintro rfl
            exact hn hm
          simp [hs, List.findIdx?_append, hnone, List.findIdx?_cons]
  rw [placeIn?, hidx, Option.map_some]

/-- **The position** of an element with a parent is its place among the element children. -/
theorem position_spec (hl : v.document.LinksAgree) (hv : v.Genuine) (h : v.parent? = some p) :
    ∃ before after, v.document.elementChildren p.node = before ++ v.node :: after ∧
      v.position = before.length + 1 := by
  obtain ⟨before, after, hs, hn⟩ := exists_split_of_mem (hl.nodup_elementChildren p.node)
    (mem_elementChildren_parent hl hv h)
  refine ⟨before, after, hs, ?_⟩
  rw [position, placeIn?_of_split ((map_node_siblings h).trans hs) hn, Option.getD_some]

/-- **The place among the siblings of the same tag** is the one among the element children of
that tag. -/
theorem placeIn?_sameTagSiblings_spec (hl : v.document.LinksAgree) (hv : v.Genuine)
    (h : v.parent? = some p) :
    ∃ before after,
      (v.document.elementChildren p.node).filter v.sameTag = before ++ v.node :: after ∧
      v.placeIn? v.sameTagSiblings = some (before.length + 1) := by
  have hmem : v.node ∈ (v.document.elementChildren p.node).filter v.sameTag :=
    List.mem_filter.2 ⟨mem_elementChildren_parent hl hv h, sameTag_self hv⟩
  obtain ⟨before, after, hs, hn⟩ :=
    exists_split_of_mem ((hl.nodup_elementChildren p.node).filter _) hmem
  exact ⟨before, after, hs, placeIn?_of_split ((map_node_sameTagSiblings h).trans hs) hn⟩

end Inspection.Vicinity

end SelectorFinder
