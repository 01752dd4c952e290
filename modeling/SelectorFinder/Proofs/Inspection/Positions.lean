import SelectorFinder.Proofs.Inspection.Emptiness
import SelectorFinder.Proofs.Inspection.Precedence
import SelectorFinder.Proofs.Inspection.Selecting

/-!
# The Position of an Element

Where an element stands is recorded twice: its node knows the sibling before it, and the node of
its parent lists the children. The strategies ask both. One of them walks back along the previous
siblings, the others search the children list from the front or from the back, and some of them
search among the elements of the same tag only.

A `Place` is the one position that they all speak of: the element children before a node and
those behind it. In a tree-shaped document every element with a parent has a place, and what the
links, the vicinity and the candidates say of the element can be read off it.

## Main results

* `Place.previousElement?_eq`: the walk back finds the last of the element children before.
* `Place.seen`: what a vicinity sees of its siblings.
* `Place.told`: what the candidates tell of the place.
* `positions_agree`: all of it, for every element with a parent and for every boundary.
-/

namespace SelectorFinder.Inspection

open SelectorFinder.Dom SelectorFinder.Selector SelectorFinder.Text

/-! ### Places -/

/-- **A place** of the node `n` among the element children of `p`: those before it and those
behind it. None of them is listed twice, so there is not more than one place. -/
structure Place (d : Document) (p n : NodeId) where
  before : List NodeId
  after : List NodeId
  split : d.elementChildren p = before ++ n :: after
  nodup : (d.elementChildren p).Nodup

namespace Place

variable {d : Document} {p n : NodeId}

/-- The position, counted from one. -/
def position (place : Place d p n) : Nat :=
  place.before.length + 1

/-- Positions are counted from one. -/
theorem one_le_position (place : Place d p n) : 1 ≤ place.position :=
  Nat.le_add_left 1 _

/-- The position among the elements with a certain tag, counted from one. -/
def positionOfType (place : Place d p n) (name : String) : Nat :=
  (place.before.filter (HasName d name)).length + 1

/-- Fewer elements have the tag than there are. -/
theorem positionOfType_le (place : Place d p n) (name : String) :
    place.positionOfType name ≤ place.position :=
  Nat.succ_le_succ (List.length_filter_le _ _)

/-- All children stand up to the position or behind it. -/
theorem length_eq (place : Place d p n) :
    (d.elementChildren p).length = place.position + place.after.length := by
  rw [place.split, List.length_append, List.length_cons, position]
  omega

/-- The node does not come again before its place. -/
theorem notMem_before (place : Place d p n) : n ∉ place.before := by
  intro hm
  have hnodup := place.split ▸ place.nodup
  exact (List.nodup_append.1 hnodup).2.2 n hm n List.mem_cons_self rfl

/-- The node does not come again behind its place. -/
theorem notMem_after (place : Place d p n) : n ∉ place.after := by
  have hnodup := place.split ▸ place.nodup
  exact (List.nodup_cons.1 (List.nodup_append.1 hnodup).2.1).1

/-- Nothing stands before the first position. -/
theorem before_eq_nil_iff (place : Place d p n) : place.before = [] ↔ place.position = 1 := by
  rw [position, Nat.add_eq_right, List.length_eq_zero_iff]

/-- A node is first exactly if its position is one. -/
theorem head?_eq_some_iff (place : Place d p n) :
    (d.elementChildren p).head? = some n ↔ place.position = 1 := by
  rw [← before_eq_nil_iff, place.split]
  cases hb : place.before with
  | nil => simp
  | cons m ms =>
    have hne : m ≠ n := by
      rintro rfl
      exact place.notMem_before (hb ▸ List.mem_cons_self)
    simp [hne]

/-- A node is last exactly if its position is the number of the element children. -/
theorem getLast?_eq_some_iff (place : Place d p n) :
    (d.elementChildren p).getLast? = some n ↔
      place.position = (d.elementChildren p).length := by
  rw [place.length_eq, Nat.left_eq_add, List.length_eq_zero_iff, place.split]
  rcases List.eq_nil_or_concat' place.after with ha | ⟨ms, m, ha⟩
  · simp [ha]
  · have hne : m ≠ n := by
      rintro rfl
      exact place.notMem_after (by simp [ha])
    rw [ha, ← List.cons_append, ← List.append_assoc, List.getLast?_concat]
    simp [hne]

/-- A node is the only element child exactly if there is one of them. -/
theorem eq_singleton_iff (place : Place d p n) :
    d.elementChildren p = [n] ↔ (d.elementChildren p).length = 1 := by
  constructor
  · intro honly
    rw [honly, List.length_singleton]
  · intro hlength
    obtain ⟨m, hm⟩ := List.length_eq_one_iff.1 hlength
    have hmem : n ∈ d.elementChildren p := by simp [place.split]
    rw [hm, List.mem_singleton] at hmem
    rw [hm, hmem]

/-- There is another element child exactly if there is more than one of them. -/
theorem exists_ne_iff (place : Place d p n) :
    (∃ m ∈ d.elementChildren p, m ≠ n) ↔ 1 < (d.elementChildren p).length := by
  constructor
  · rintro ⟨m, hm, hne⟩
    have hpos := List.length_pos_of_mem hm
    refine Nat.lt_of_le_of_ne hpos fun hone => ?_
    rw [place.eq_singleton_iff.2 hone.symm, List.mem_singleton] at hm
    exact hne hm
  · intro hlt
    refine Classical.byContradiction fun hnone => ?_
    have hall : ∀ m ∈ d.elementChildren p, m = n := fun m hm =>
      Classical.byContradiction fun hne => hnone ⟨m, hm, hne⟩
    have hreplicate := List.eq_replicate_of_mem hall
    have hnodup := place.nodup
    rw [hreplicate, List.nodup_replicate] at hnodup
    omega

/-! ### The links -/

/-- **The walk back finds the last of the element children before.** -/
theorem previousElement?_eq (place : Place d p n) (h : d.LinksAgree) :
    d.previousElement? n = place.before.getLast? := by
  have hn : (d.elementChildren p)[place.before.length]? = some n := by
    rw [place.split, List.getElem?_append_right (le_refl _), Nat.sub_self]
    rfl
  rw [h.previousElement?_of_getElem? hn, List.getLast?_eq_getElem?]
  split
  next hzero => simp [List.eq_nil_of_length_eq_zero hzero]
  next hpos => rw [place.split, List.getElem?_append_left (by omega)]

/-- Only the first element child has no element before it. -/
theorem previousElement?_eq_none_iff (place : Place d p n) (h : d.LinksAgree) :
    d.previousElement? n = none ↔ place.position = 1 := by
  rw [place.previousElement?_eq h, List.getLast?_eq_none_iff, before_eq_nil_iff]

/-- There is an element before exactly if the position is not the first one. -/
theorem exists_previousElement?_iff (place : Place d p n) (h : d.LinksAgree) :
    (∃ m, d.previousElement? n = some m) ↔ 1 < place.position := by
  rw [← Option.ne_none_iff_exists', Ne, place.previousElement?_eq_none_iff h]
  have hpos := place.one_le_position
  omega

/-- The element before stands one position before. -/
theorem getElem?_of_previousElement? (place : Place d p n) (h : d.LinksAgree) {m : NodeId}
    (hm : d.previousElement? n = some m) :
    (d.elementChildren p)[place.position - 2]? = some m := by
  rw [place.previousElement?_eq h] at hm
  obtain ⟨front, hfront⟩ := List.getLast?_eq_some_iff.1 hm
  rw [place.split, position, hfront]
  simp

end Place

/-- **An element with a parent has a place** among the element children of the parent. -/
theorem exists_place {d : Document} {p n : NodeId} (h : d.LinksAgree) (hn : d.isElement n)
    (hp : d.parent? n = some p) : Nonempty (Place d p n) := by
  obtain ⟨before, after, hs⟩ := List.append_of_mem (h.mem_elementChildren_of_parent? hp hn)
  exact ⟨⟨before, after, hs, h.nodup_elementChildren p⟩⟩

/-! ### What a vicinity sees -/

/-- **What a vicinity sees of a place** of an element with a certain tag. -/
structure SeesPlace {d : Document} {p n : NodeId} (v : Vicinity) (place : Place d p n)
    (tagName : String) : Prop where
  siblings : v.siblings.map Vicinity.node = d.elementChildren p
  position : v.position = place.position
  sameTagSiblings :
    v.sameTagSiblings.map Vicinity.node = (d.elementChildren p).filter (HasName d tagName)
  mem_sameTagSiblings : n ∈ v.sameTagSiblings.map Vicinity.node

section Seeing

variable {v : Vicinity} {p : NodeId}

/-- The tag is compared as the names of elements are. -/
theorem Vicinity.sameTag_eq :
    v.sameTag = fun m => decide (HasName v.document v.element.tagName m) := by
  funext m
  rw [Bool.eq_iff_iff, decide_eq_true_eq, sameTag_iff]

/-- The elements of the same tag are split at the same node. -/
theorem Place.split_filter (place : Place v.document p v.node) (hv : v.Genuine) :
    (v.document.elementChildren p).filter v.sameTag =
      place.before.filter v.sameTag ++ v.node :: place.after.filter v.sameTag := by
  rw [place.split, List.filter_append, List.filter_cons_of_pos (Vicinity.sameTag_self hv)]

/-- **The siblings, the position and the siblings of the same tag** are read off the place. -/
theorem Place.seen (place : Place v.document p v.node) (hv : v.Genuine)
    (hp : HasParentElement v.document v.node p) : SeesPlace v place v.element.tagName := by
  obtain ⟨parent, hparent, rfl⟩ := Vicinity.exists_parent?_of_hasParentElement hp
  have hsiblings := Vicinity.map_node_siblings hparent
  have hsame := Vicinity.map_node_sameTagSiblings hparent
  refine ⟨hsiblings, ?_, Vicinity.sameTag_eq ▸ hsame, ?_⟩
  · rw [Vicinity.position, Vicinity.placeIn?_of_split (hsiblings.trans place.split)
      place.notMem_before, Option.getD_some, Place.position]
  · rw [hsame, place.split_filter hv]
    exact List.mem_append_right _ List.mem_cons_self

/-- The index among the siblings of the same tag, where there is one, is the position among the
elements of the tag. -/
theorem Place.typeIndex?_eq (place : Place v.document p v.node) (hv : v.Genuine)
    (hp : HasParentElement v.document v.node p) {k : Nat} (hk : Strategy.typeIndex? v = some k) :
    k = place.positionOfType v.element.tagName := by
  obtain ⟨parent, hparent, rfl⟩ := Vicinity.exists_parent?_of_hasParentElement hp
  obtain ⟨q, -, hplace⟩ := Vicinity.exists_parent?_of_typeIndex? hk
  have hsplit := (Vicinity.map_node_sameTagSiblings hparent).trans (place.split_filter hv)
  have hnot : v.node ∉ place.before.filter v.sameTag := fun hm =>
    place.notMem_before (List.mem_of_mem_filter hm)
  rw [Vicinity.placeIn?_of_split hsplit hnot, Option.some_inj] at hplace
  rw [← hplace, Place.positionOfType, Vicinity.sameTag_eq]

end Seeing

/-! ### What the candidates tell -/

namespace Inspector

/-- A candidate of the kind is handed out for the node, where texts may repeat. -/
def Offers (d : Document) (boundary : Option NodeId) (n : NodeId) (k : CandidateKind) : Prop :=
  k ∈ ((repeating d boundary).candidates n).map Candidate.kind

/-- Whatever candidate of the kind is handed out for the node, its text is the given one. -/
def Writes (d : Document) (boundary : Option NodeId) (n : NodeId) (k : CandidateKind)
    (text : String) : Prop :=
  ∀ choices, ∀ c ∈ (Inspector.mk d boundary choices).candidates n, c.kind = k → c.selector = text

end Inspector

open Inspector Strategy

/-- **What the candidates tell of a place** of an element below another one. -/
structure TellsPlace {d : Document} {p n : NodeId} (boundary : Option NodeId) (place : Place d p n)
    (element parent : Element) : Prop where
  nthChild : Offers d boundary n .nthChild ∧ Writes d boundary n .nthChild
    (parent.localName ++ " > :nth-child(" ++ toString place.position ++ ")")
  nthOfType : Writes d boundary n .nthOfType
    (element.localName ++ ":nth-of-type(" ++
      toString (place.positionOfType element.tagName) ++ ")")
  positionOfType_le : place.positionOfType element.tagName ≤ place.position
  adjacentSibling : Offers d boundary n .adjacentSibling ↔ 1 < place.position
  adjacentSibling_text : 1 < place.position → ∃ w,
    (d.elementChildren p)[place.position - 2]? = some w.node ∧
    Vicinity.at? d boundary w.node = some w ∧
    Writes d boundary n .adjacentSibling
      (renderSimple w.basic ++ " + " ++ element.localName)
  first : Offers d boundary n .firstChild ∨ Offers d boundary n .onlyChild ↔ place.position = 1
  last : Offers d boundary n .lastChild ∨ Offers d boundary n .onlyChild ↔
    place.position = (d.elementChildren p).length
  notSibling : Offers d boundary n .notSibling ↔ 1 < (d.elementChildren p).length

section Telling

variable {d : Document} {boundary : Option NodeId} {p n : NodeId} {e : Element}

/-- A node has at most one parent element. -/
theorem exists_hasParentElement_iff (hp : HasParentElement d n p) {P : NodeId → Prop} :
    (∃ q, HasParentElement d n q ∧ P q) ↔ P p := by
  constructor
  · rintro ⟨q, hq, h⟩
    obtain rfl : q = p := Option.some.inj (hq.1.symm.trans hp.1)
    exact h
  · intro h
    exact ⟨p, hp, h⟩

namespace Place

/-! #### The kinds -/

/-- Only a node that is not the first follows another. -/
theorem isDue_adjacentSibling_iff (place : Place d p n) (h : d.LinksAgree) :
    IsDue d boundary n e .adjacentSibling ↔ 1 < place.position := by
  rw [← place.exists_previousElement?_iff h, h.exists_previousElement?_iff, IsDue]

/-- The first child is either the first of several or the only one. -/
theorem isDue_first_iff (place : Place d p n) (hp : HasParentElement d n p) :
    IsDue d boundary n e .firstChild ∨ IsDue d boundary n e .onlyChild ↔ place.position = 1 := by
  rw [IsDue, IsDue, exists_hasParentElement_iff hp, exists_hasParentElement_iff hp,
    place.head?_eq_some_iff, place.eq_singleton_iff]
  have hlength := place.length_eq
  have hpos := place.one_le_position
  omega

/-- The last child is either the last of several or the only one. -/
theorem isDue_last_iff (place : Place d p n) (hp : HasParentElement d n p) :
    IsDue d boundary n e .lastChild ∨ IsDue d boundary n e .onlyChild ↔
      place.position = (d.elementChildren p).length := by
  rw [IsDue, IsDue, exists_hasParentElement_iff hp, exists_hasParentElement_iff hp,
    place.getLast?_eq_some_iff, place.eq_singleton_iff]
  have hlength := place.length_eq
  have hpos := place.one_le_position
  omega

/-- There is another child to exclude unless the node is alone. -/
theorem isDue_notSibling_iff (place : Place d p n) (hp : HasParentElement d n p) :
    IsDue d boundary n e .notSibling ↔ 1 < (d.elementChildren p).length := by
  rw [IsDue, exists_hasParentElement_iff hp, ← place.exists_ne_iff]
  simp only [Document.mem_elementChildren, and_assoc]

end Place

/-! #### The texts -/

/-- All candidates of an element are proposed for its vicinity. -/
theorem Inspector.writes_of_proposes {v : Vicinity} (hv : v.Genuine) {k : CandidateKind}
    {text : String} (h : ∀ q, Proposes v q → q.kind = k → q.selector.render = text) :
    Writes v.document v.boundary v.node k text := by
  intro choices c hc hk
  obtain ⟨w, hw, hproposed⟩ := exists_of_mem_candidates hc
  obtain rfl : v = w := Option.some.inj (hv.at?_eq.symm.trans hw)
  obtain ⟨q, hq, rfl⟩ := Vicinity.mem_candidates_iff.1 hproposed
  exact h q hq hk

namespace Place

variable {v : Vicinity}

/-- **The number that is written** for a child is its position. -/
theorem writes_nthChild (place : Place v.document p v.node) (hv : v.Genuine) {parent : Element}
    (hparent : v.document.parent? v.node = some p) (hp : v.document.element? p = some parent) :
    Writes v.document v.boundary v.node .nthChild
      (parent.localName ++ " > :nth-child(" ++ toString place.position ++ ")") := by
  have hup : HasParentElement v.document v.node p :=
    ⟨hparent, Document.isElement_iff.2 ⟨parent, hp⟩⟩
  refine writes_of_proposes hv fun q hq hk => ?_
  cases hq with
  | @nthChild w hw =>
    obtain ⟨hneighbour, hnode⟩ := Vicinity.parent?_eq_some_iff.1 hw
    obtain rfl : p = w.node := Option.some.inj (hparent.symm.trans hnode)
    obtain rfl : parent = w.element := Option.some.inj (hp.symm.trans hneighbour.element?)
    rw [(place.seen hv hup).position]
    refine String.toList_inj.1 ?_
    simp [Selector.render, Selector.pair, Compound.render, tagged, Part.render, Simple.render,
      Combinator.render, Vicinity.tag]
  | nthChildOfNone hnone =>
    obtain ⟨w, hw, -⟩ := Vicinity.exists_parent?_of_hasParentElement hup
    rw [hnone] at hw
    cases hw
  | _ => cases hk

/-- **The index that is written** is the position among the elements of the tag. -/
theorem writes_nthOfType (place : Place v.document p v.node) (hv : v.Genuine)
    (hp : HasParentElement v.document v.node p) :
    Writes v.document v.boundary v.node .nthOfType
      (v.element.localName ++ ":nth-of-type(" ++
        toString (place.positionOfType v.element.tagName) ++ ")") := by
  refine writes_of_proposes hv fun q hq hk => ?_
  cases hq with
  | nthOfType hindex =>
    rw [← place.typeIndex?_eq hv hp hindex]
    simp [Selector.render, Selector.ofCompound, Compound.render, tagged, Part.render,
      Simple.render, Vicinity.tag, String.append_assoc]
  | _ => cases hk

/-- **What is written in front** of a node that follows another is the basic selector of the element
one place before. -/
theorem exists_writes_adjacentSibling (place : Place v.document p v.node) (hv : v.Genuine)
    (h : v.document.LinksAgree) (hlt : 1 < place.position) :
    ∃ w, (v.document.elementChildren p)[place.position - 2]? = some w.node ∧
      Vicinity.at? v.document v.boundary w.node = some w ∧
      Writes v.document v.boundary v.node .adjacentSibling
        (renderSimple w.basic ++ " + " ++ v.element.localName) := by
  obtain ⟨w, hw⟩ := Vicinity.exists_previous?_iff.2 ((place.exists_previousElement?_iff h).2 hlt)
  obtain ⟨hneighbour, hprevious⟩ := Vicinity.previous?_eq_some_iff.1 hw
  refine ⟨w, place.getElem?_of_previousElement? h hprevious, hneighbour.at?_eq,
    writes_of_proposes hv fun q hq hk => ?_⟩
  cases hq with
  | @adjacentSibling w' hw' =>
    obtain rfl : w' = w := Option.some.inj (hw'.symm.trans hw)
    rw [render_pair_tagged, show (basicOf w').render = renderSimple w'.basic from
      (render_ofCompound _).symm.trans (render_ofSimple w'.basic)]
    simp [Combinator.render, Vicinity.tag, String.append_assoc]
  | _ => cases hk

/-- **What the candidates of an element tell** of its place below another element. -/
theorem told (place : Place d p n) (h : Document.TreeShaped d) {parent : Element}
    (he : d.element? n = some e) (hparent : d.parent? n = some p)
    (hp : d.element? p = some parent) (boundary : Option NodeId) :
    TellsPlace boundary place e parent := by
  obtain ⟨v, hv⟩ : ∃ v, Vicinity.at? d boundary n = some v :=
    exists_at?_of_isElement (Document.isElement_iff.2 ⟨e, he⟩)
  obtain ⟨rfl, rfl, rfl, hgenuine⟩ := Vicinity.at?_eq_some_iff.1 hv
  obtain rfl : v.element = e := Option.some.inj (hgenuine.symm.trans he)
  have hup : HasParentElement v.document v.node p :=
    ⟨hparent, Document.isElement_iff.2 ⟨parent, hp⟩⟩
  have hoffers : ∀ k, Offers v.document v.boundary v.node k ↔
      IsDue v.document v.boundary v.node v.element k :=
    mem_kinds_repeating_iff h he
  constructor
  case nthChild =>
    exact ⟨(hoffers .nthChild).2 trivial, place.writes_nthChild hgenuine hparent hp⟩
  case nthOfType => exact place.writes_nthOfType hgenuine hup
  case positionOfType_le => exact place.positionOfType_le _
  case adjacentSibling => rw [hoffers, place.isDue_adjacentSibling_iff h.linksAgree]
  case adjacentSibling_text => exact place.exists_writes_adjacentSibling hgenuine h.linksAgree
  case first => rw [hoffers, hoffers, place.isDue_first_iff hup]
  case last => rw [hoffers, hoffers, place.isDue_last_iff hup]
  case notSibling => rw [hoffers, place.isDue_notSibling_iff hup]

end Place

/-- **All readings of a position agree.** In a tree-shaped document every element with a parent
node has a place among the element children of this node. The closest element before it, found
along the previous siblings, is the last of the element children before it, and there is none
exactly if the element comes first. Where the parent is an element, then for every boundary the
siblings, the position and the siblings of the same tag are what the place says, and so are the
numbers that the candidates print, the sibling they name, and which of them there are. -/
theorem positions_agree (h : Document.TreeShaped d) (he : d.element? n = some e)
    (hp : d.parent? n = some p) :
    ∃ place : Place d p n,
      d.previousElement? n = place.before.getLast? ∧
      (d.previousElement? n = none ↔ (d.elementChildren p).head? = some n) ∧
      ∀ parent, d.element? p = some parent → ∀ boundary,
        (∃ v, Vicinity.at? d boundary n = some v ∧ SeesPlace v place e.tagName) ∧
        TellsPlace boundary place e parent := by
  obtain ⟨place⟩ := exists_place h.linksAgree (Document.isElement_iff.2 ⟨e, he⟩) hp
  refine ⟨place, place.previousElement?_eq h.linksAgree, ?_, fun parent hparent boundary => ?_⟩
  · rw [place.previousElement?_eq_none_iff h.linksAgree, place.head?_eq_some_iff]
  · have hup : HasParentElement d n p := ⟨hp, Document.isElement_iff.2 ⟨parent, hparent⟩⟩
    have hgenuine : Vicinity.Genuine ⟨d, boundary, n, e⟩ := he
    exact ⟨⟨_, hgenuine.at?_eq, place.seen hgenuine hup⟩, place.told h he hp hparent boundary⟩

/-- The second control of a form, behind blank text and a comment: it is at the second position,
which is the last. -/
theorem positions_agree_formPage :
    Document.TreeShaped Document.formPage ∧
      Document.formPage.element? 7 = some ⟨"INPUT", .empty⟩ ∧
      Document.formPage.parent? 7 = some 3 ∧
      ∃ place : Place Document.formPage 3 7, place.position = 2 ∧
        place.before.getLast? = some 4 ∧
        TellsPlace (some 2) place ⟨"INPUT", .empty⟩
          ⟨"form", .ofList [("class", "wide plain")]⟩ := by
  have helement : Document.formPage.element? 7 = some ⟨"INPUT", .empty⟩ := by decide
  have hparent : Document.formPage.parent? 7 = some 3 := by decide
  have hform : Document.formPage.element? 3 =
      some ⟨"form", .ofList [("class", "wide plain")]⟩ := by
    decide
  have hprevious : Document.formPage.previousElement? 7 = some 4 := by decide
  have hlast : (Document.formPage.elementChildren 3).getLast? = some 7 := by decide
  have hlength : (Document.formPage.elementChildren 3).length = 2 := by decide
  obtain ⟨place, hbefore, -, hbelow⟩ :=
    positions_agree Document.treeShaped_formPage helement hparent
  exact ⟨Document.treeShaped_formPage, helement, hparent, place,
    (place.getLast?_eq_some_iff.1 hlast).trans hlength, hbefore.symm.trans hprevious,
    (hbelow _ hform (some 2)).2⟩

end Telling

end SelectorFinder.Inspection
