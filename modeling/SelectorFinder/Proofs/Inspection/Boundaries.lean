import SelectorFinder.Proofs.Inspection.PathLevels
import SelectorFinder.Proofs.Inspection.RankingLaws
import SelectorFinder.Proofs.Inspection.Views

/-!
# What the Boundary Changes

The boundary is looked at on the way up only: by the full path, by the two strategies that
write the parent, and by the summary of the parent. So two inspectors of one document that
differ in the boundary agree on all other candidates, and on everything if neither boundary is
on the way up. Where the one boundary lies above the other, the way up to the lower one is the
first part of the way up to the higher one.

## Main results

* `Vicinity.filter_proposals_within`: what is proposed apart from the scoped kinds.
* `Vicinity.within_simulation`: boundaries that are not on the way up.
* `Dom.Document.Ascends.isPrefix`: moving the boundary down shortens the way up.
* `candidates_under_boundaries`: the lists under two boundaries.
-/

namespace SelectorFinder

open SelectorFinder.Dom SelectorFinder.Selector

namespace Dom.Document

variable {d : Document} {b b₁ b₂ : Option NodeId} {n m p : NodeId}

/-! ### Where the boundary lies -/

/-- **The boundary is not on the way up**: it is neither the node nor an element above it. -/
structure IsOff (d : Document) (b : Option NodeId) (n : NodeId) : Prop where
  ne : b ≠ some n
  not_above : ∀ a, b = some a → ¬ d.IsElementAncestor a n

/-- A boundary that is not on the way up from a node is not on the way up from its parent. -/
theorem IsOff.parentElement (h : d.IsOff b n) (hp : d.parentElement? n = some p) :
    d.IsOff b p where
  ne hb := h.not_above p hb (.single hp)
  not_above a hb ha := h.not_above a hb (ha.tail hp)

/-- A boundary that is no element is on no element's way up. -/
theorem isOff_of_not_isElement (hn : d.isElement n) (hm : d.isElement m = false) :
    d.IsOff (some m) n where
  ne := by
    rintro ⟨⟩
    simp [hn] at hm
  not_above a ha habove := by
    obtain rfl := Option.some.inj ha
    obtain ⟨c, hc, -⟩ := Relation.TransGen.head'_iff.1 habove
    simp [(parentElement?_eq_some_iff.1 hc).2] at hm

/-- A node, or an element above it. -/
def IsAtOrAbove (d : Document) : NodeId → NodeId → Prop :=
  Relation.ReflTransGen d.IsParentElement

/-- In a tree-shaped document no two nodes lie above each other. -/
theorem IsAtOrAbove.antisymm (hd : TreeShaped d) (h : d.IsAtOrAbove m n)
    (h' : d.IsAtOrAbove n m) : m = n := by
  rcases Relation.reflTransGen_iff_eq_or_transGen.1 h with rfl | habove
  · rfl
  · obtain ⟨k, hk⟩ := hd.exists_hasDepth m
    have hself : d.IsElementAncestor m m := habove.trans_left h'
    exact absurd (IsElementAncestor.isAncestor hself) hk.not_isAncestor

/-- **Moving the boundary down shortens the way up**: where the lower boundary is at the node or
above it, the way up to it is the first part of the way up to a boundary above it. -/
theorem Ascends.isPrefix (hd : TreeShaped d) {up₁ up₂ : List NodeId} (h₁ : d.Ascends b₁ n up₁)
    (h₂ : d.Ascends (some m) n up₂) (hm : d.IsAtOrAbove m n)
    (hb : ∀ a, b₁ = some a → d.IsAtOrAbove a m) : up₂ <+: up₁ := by
  induction h₂ generalizing up₁ with
  | @start n _ =>
    cases h₁ with
    | start _ => exact List.prefix_rfl
    | up _ _ _ => exact ⟨_, rfl⟩
  | @up n p above hnot hp _ ih =>
    obtain ⟨hid, hself, hparent⟩ : ¬ d.HasId n ∧ m ≠ n ∧ m ≠ p := by
      simpa [PathStarts, not_or, hp] using hnot
    -- so the lower boundary lies above the parent
    have hmp : d.IsAtOrAbove m p := by
      rcases Relation.ReflTransGen.cases_tail hm with rfl | ⟨q, hmq, hq⟩
      · exact absurd rfl hself
      · obtain rfl := Option.some.inj (hp.symm.trans hq)
        exact hmq
    cases h₁ with
    | start hstarts =>
      rcases hstarts with hid' | hb₁ | hb₁
      · exact absurd hid' hid
      · exact absurd (hm.antisymm hd (hb n hb₁)) hself
      · exact absurd (hmp.antisymm hd (hb p (hb₁ p hp))) hparent
    | up _ hp' habove =>
      obtain rfl := Option.some.inj (hp.symm.trans hp')
      exact List.cons_prefix_cons.2 ⟨rfl, ih habove hmp⟩

end Dom.Document

namespace Inspection

/-- **The scoped kinds**: those whose selectors speak of the way up to the boundary. -/
def CandidateKind.isScoped : CandidateKind → Bool
  | fullPath | viaParent | directChild => true
  | _ => false

/-- The candidate without the summary of the parent. -/
def Candidate.withoutParent (c : Candidate) : Candidate :=
  { c with parent := none }

namespace Vicinity

/-! ### Another boundary -/

/-- The same vicinity under another boundary. -/
def within (v : Vicinity) (b : Option NodeId) : Vicinity :=
  { v with boundary := b }

section Within

open Strategy

variable (v : Vicinity) (b : Option NodeId)

/-- Another node is looked up under the new boundary. -/
theorem other?_within (n : NodeId) : (v.within b).other? n = (v.other? n).map (·.within b) := by
  simp only [other?, at?, Option.map_map]
  rfl

/-- The parent is the same element, under the new boundary. -/
@[simp] theorem parent?_within : (v.within b).parent? = v.parent?.map (·.within b) := by
  rw [parent?, parent?, Option.map_bind]
  exact Option.bind_congr fun n _ => v.other?_within b n

/-- The element before is the same, under the new boundary. -/
@[simp] theorem previous?_within : (v.within b).previous? = v.previous?.map (·.within b) := by
  rw [previous?, previous?, Option.map_bind]
  exact Option.bind_congr fun n _ => v.other?_within b n

/-- The children are the same elements, under the new boundary. -/
@[simp] theorem children_within : (v.within b).children = v.children.map (·.within b) := by
  rw [children, children, List.map_filterMap]
  exact List.filterMap_congr fun n _ => v.other?_within b n

/-- The siblings are the same elements, under the new boundary. -/
@[simp] theorem siblings_within : (v.within b).siblings = v.siblings.map (·.within b) := by
  rw [siblings, siblings, parent?_within]
  cases v.parent? with
  | none => rfl
  | some p => exact p.children_within b

/-- The place among neighbours does not depend on the boundary. -/
@[simp] theorem placeIn?_within (among : List Vicinity) :
    (v.within b).placeIn? (among.map (·.within b)) = v.placeIn? among := by
  rw [placeIn?, placeIn?, List.findIdx?_map]
  rfl

/-- The position is the same under any boundary. -/
@[simp] theorem position_within : (v.within b).position = v.position := by
  rw [position, position, siblings_within, placeIn?_within]

/-- The siblings of the same tag are the same elements, under the new boundary. -/
@[simp] theorem sameTagSiblings_within :
    (v.within b).sameTagSiblings = v.sameTagSiblings.map (·.within b) := by
  rw [sameTagSiblings, sameTagSiblings, siblings_within, List.filter_map]
  rfl

/-- The index among them is the same. -/
@[simp] theorem typeIndex?_within : typeIndex? (v.within b) = typeIndex? v := by
  rw [typeIndex?, typeIndex?, sameTagSiblings_within, placeIn?_within, List.length_map]

/-! ### Strategies under another boundary -/

/-- The place among the parent's children is proposed under any boundary. -/
theorem nthChild_within : nthChild (v.within b) = nthChild v := by
  rw [nthChild, nthChild, parent?_within, position_within]
  cases v.parent? <;> rfl

/-- What is proposed from a neighbour stays, if the neighbour is found under any boundary. -/
theorem fromNeighbour_within {neighbour? : Vicinity → Option Vicinity}
    (h : neighbour? (v.within b) = (neighbour? v).map (·.within b)) (kind : CandidateKind)
    (combinator : Combinator) (description : String) :
    fromNeighbour neighbour? kind combinator description (v.within b) =
      fromNeighbour neighbour? kind combinator description v := by
  rw [fromNeighbour, fromNeighbour, h]
  cases neighbour? v <;> rfl

/-- If it is of a scoped kind, then it does not count at all. -/
theorem filter_fromNeighbour_within (neighbour? : Vicinity → Option Vicinity)
    {kind : CandidateKind} (hkind : kind.isScoped = true) (combinator : Combinator)
    (description : String) :
    (fromNeighbour neighbour? kind combinator description (v.within b)).filter
        (!·.kind.isScoped) =
      (fromNeighbour neighbour? kind combinator description v).filter (!·.kind.isScoped) := by
  have hnone : ∀ u, (fromNeighbour neighbour? kind combinator description u).filter
      (!·.kind.isScoped) = [] := by
    intro u
    rw [fromNeighbour]
    cases neighbour? u with
    | none => rfl
    | some w => simp [hkind]
  rw [hnone, hnone]

/-- The first child is proposed under any boundary. -/
theorem has_within : has (v.within b) = has v := by
  rw [has, has, children_within]
  cases v.children <;> rfl

/-- The exclusion of another child of the parent is proposed under any boundary. -/
theorem notSibling_within : notSibling (v.within b) = notSibling v := by
  have hother : (v.within b).siblings.find? (·.node != (v.within b).node) =
      (v.siblings.find? (·.node != v.node)).map (·.within b) := by
    rw [siblings_within, List.find?_map]
    rfl
  rw [notSibling, notSibling, hother]
  cases v.siblings.find? (·.node != v.node) <;> rfl

/-- The parent as an argument is proposed under any boundary. -/
theorem isParent_within : isParent (v.within b) = isParent v := by
  rw [isParent, isParent, parent?_within]
  cases v.parent? <;> rfl

/-- The index among the siblings of the same tag is proposed under any boundary. -/
theorem nthOfType_within : nthOfType (v.within b) = nthOfType v := by
  rw [nthOfType, nthOfType, typeIndex?_within]
  cases typeIndex? v <;> rfl

/-- The first, the last and the only child are proposed as such under any boundary. -/
theorem childPosition_within : childPosition (v.within b) = childPosition v := by
  rw [childPosition, childPosition, siblings_within]
  rcases v.siblings with _ | ⟨first, _ | ⟨second, more⟩⟩
  · rfl
  · rfl
  · have hlast : ((second :: more).map (·.within b)).getLastD (first.within b) =
        ((second :: more).getLastD first).within b := by
      rw [List.getLastD_eq_getLast?, List.getLastD_eq_getLast?, List.getLast?_map, Option.getD_map]
    simp only [List.map_cons] at hlast ⊢
    rw [hlast]
    rfl

/-- An element without content is proposed as empty under any boundary. -/
theorem empty_within : Strategy.empty (v.within b) = Strategy.empty v := by
  rw [Strategy.empty, Strategy.empty, children_within]
  cases v.children <;> rfl

/-- The states of a form control are proposed under any boundary. -/
theorem formControl_within : formControl (v.within b) = formControl v := by
  rw [formControl, formControl, parent?_within]
  cases v.parent? <;> rfl

/-- **Every strategy proposes the same under another boundary**, apart from the scoped kinds.
Strategies that look at the element alone do so by definition. -/
theorem filter_strategy_within : ∀ s ∈ strategies,
    (s (v.within b)).filter (!·.kind.isScoped) = (s v).filter (!·.kind.isScoped) := by
  have hsame : ∀ {s : Strategy}, s (v.within b) = s v →
      (s (v.within b)).filter (!·.kind.isScoped) = (s v).filter (!·.kind.isScoped) :=
    congrArg _
  simp only [strategies, List.forall_mem_cons]
  exact ⟨rfl, rfl, rfl, hsame (v.nthChild_within b), rfl, rfl, rfl,
    v.filter_fromNeighbour_within b anchor? rfl .., v.filter_fromNeighbour_within b anchor? rfl ..,
    hsame (v.fromNeighbour_within b (v.previous?_within b) ..), hsame (v.has_within b),
    hsame (v.notSibling_within b), rfl, rfl, hsame (v.isParent_within b),
    hsame (v.nthOfType_within b), hsame (v.childPosition_within b), hsame (v.empty_within b),
    hsame (v.formControl_within b), rfl, List.forall_mem_nil _⟩

/-- The proposals of the other kinds are the same under another boundary, in the same order. -/
theorem filter_proposals_within :
    (v.within b).proposals.filter (!·.kind.isScoped) =
      v.proposals.filter (!·.kind.isScoped) := by
  rw [proposals, proposals, List.filter_flatMap, List.filter_flatMap]
  exact List.flatMap_congr (v.filter_strategy_within b)

/-- **The candidates of the other kinds**, apart from the summary of the parent. -/
theorem filter_candidates_within :
    ((v.within b).candidates.filter (!·.kind.isScoped)).map Candidate.withoutParent =
      (v.candidates.filter (!·.kind.isScoped)).map Candidate.withoutParent := by
  have hfilter : ∀ u : Vicinity, (u.candidates.filter (!·.kind.isScoped)).map
      Candidate.withoutParent = (u.proposals.filter (!·.kind.isScoped)).map
        fun p => ⟨p.kind, p.selector.render, p.description, p.weight, none⟩ := by
    intro u
    rw [candidates, List.filter_map, List.map_map]
    rfl
  rw [hfilter, hfilter, filter_proposals_within]

end Within

/-! ### Boundaries that are not on the way up -/

/-- The same vicinity under two boundaries neither of which is at its node or above it. -/
structure UnderOther (b₁ b₂ : Option NodeId) (v w : Vicinity) : Prop where
  boundary : v.boundary = b₁
  within : w = v.within b₂
  off : v.document.IsOff b₁ v.node
  off' : v.document.IsOff b₂ v.node

/-- **Such boundaries are never met**, on no step of the way up. -/
theorem within_simulation (b₁ b₂ : Option NodeId) : Simulation (UnderOther b₁ b₂) where
  sameElement h := by
    obtain ⟨-, rfl, -, -⟩ := h
    rfl
  isBoundary_eq {v w} h := by
    obtain ⟨rfl, rfl, hoff, hoff'⟩ := h
    have hfirst : v.isBoundary = false := beq_eq_false_iff_ne.2 hoff.ne
    have hsecond : (v.within b₂).isBoundary = false := beq_eq_false_iff_ne.2 hoff'.ne
    rw [hfirst, hsecond]
  isDocumentElement_eq h := by
    obtain ⟨-, rfl, -, -⟩ := h
    rfl
  parent? {v w} h := by
    obtain ⟨rfl, rfl, hoff, hoff'⟩ := h
    rw [parent?_within]
    cases hp : v.parent? with
    | none => exact .none
    | some p =>
      have hneighbour := (parent?_eq_some_iff.1 hp).1
      have hparent : v.document.parentElement? v.node = some p.node := by
        rw [← map_node_parent?, hp, Option.map_some]
      refine .some ⟨hneighbour.boundary, rfl, ?_, ?_⟩
      · rw [hneighbour.document]
        exact hoff.parentElement hparent
      · rw [hneighbour.document]
        exact hoff'.parentElement hparent
  previous? {v w} h := by
    obtain ⟨-, rfl, -, -⟩ := h
    rw [previous?_within]
    cases v.previous? with
    | none => exact .none
    | some p => exact .some rfl
  children {v w} h := by
    obtain ⟨-, rfl, -, -⟩ := h
    rw [children_within, List.forall₂_map_right_iff]
    exact List.forall₂_same.2 fun _ _ => rfl
  siblings {v w} h := by
    obtain ⟨-, rfl, -, -⟩ := h
    rw [siblings_within, List.forall₂_map_right_iff]
    exact List.forall₂_same.2 fun _ _ => ⟨rfl, rfl⟩
  hasText_eq h := by
    obtain ⟨-, rfl, -, -⟩ := h
    exact fun _ _ => rfl

end Vicinity

/-! ### The lists under two boundaries -/

section Lists

open Dom.Document

variable {d : Document} {b₁ b₂ : Option NodeId} {n : NodeId}

/-- The vicinity of a node under another boundary. -/
theorem at?_within (d : Document) (b₁ b₂ : Option NodeId) (n : NodeId) :
    Vicinity.at? d b₂ n = (Vicinity.at? d b₁ n).map (·.within b₂) := by
  simp only [Vicinity.at?, Option.map_map]
  rfl

/-- **All candidates but the scoped ones are the same** under any two boundaries, in the same
order, apart from the summary of the parent. -/
theorem filter_candidates_eq (d : Document) (b₁ b₂ : Option NodeId) (n : NodeId) :
    (((Inspector.repeating d b₁).candidates n).filter (!·.kind.isScoped)).map
        Candidate.withoutParent =
      (((Inspector.repeating d b₂).candidates n).filter (!·.kind.isScoped)).map
        Candidate.withoutParent := by
  have hweight : ∀ c : Candidate, c.withoutParent.weight = c.weight := fun _ => rfl
  rw [Inspector.candidates_repeating, Inspector.candidates_repeating, filter_rankBy,
    filter_rankBy, map_rankBy hweight, map_rankBy hweight, Inspector.emitted, Inspector.emitted,
    at?_within d b₁ b₂]
  cases Vicinity.at? d b₁ n with
  | none => rfl
  | some v => exact congrArg _ (v.filter_candidates_within b₂).symm

/-- **All candidates are the same** under two boundaries that are not on the way up. -/
theorem candidates_eq_of_isOff (hd : TreeShaped d) (h₁ : d.IsOff b₁ n) (h₂ : d.IsOff b₂ n)
    (choices : Choices) :
    (Inspector.mk d b₁ choices).candidates n = (Inspector.mk d b₂ choices).candidates n := by
  rw [Inspector.candidates, Inspector.candidates, at?_within d b₁ b₂]
  cases hv : Vicinity.at? d b₁ n with
  | none => rfl
  | some v =>
    obtain ⟨rfl, rfl, rfl, -⟩ := Vicinity.at?_eq_some_iff.1 hv
    obtain ⟨k, hk, hdepth⟩ := hd.exists_hasDepth_lt v.node
    have hsame : v.candidates = (v.within b₂).candidates :=
      (Vicinity.within_simulation v.boundary b₂).candidates_eq ⟨rfl, rfl, h₁, h₂⟩ hdepth hk hk
    simp only [Option.map_some, hsame]

/-- **The effect of the boundary.** For an element of a tree-shaped document and any two
boundaries, elements or not: the candidates of all kinds but the full path, the one via the
parent and the one of a direct child are the same and in the same order, apart from the summary
of the parent. If neither boundary is the element or above it, all candidates are the same, with
their summaries. If the second boundary is the element or above it, and the first one is none
or at the second or above it, then the levels of the full path under the second are the last
ones of those under the first. -/
theorem candidates_under_boundaries (hd : TreeShaped d) (hn : d.isElement n)
    (b₁ b₂ : Option NodeId) :
    (((Inspector.repeating d b₁).candidates n).filter (!·.kind.isScoped)).map
        Candidate.withoutParent =
      (((Inspector.repeating d b₂).candidates n).filter (!·.kind.isScoped)).map
        Candidate.withoutParent ∧
    (d.IsOff b₁ n → d.IsOff b₂ n → ∀ choices,
      (Inspector.mk d b₁ choices).candidates n = (Inspector.mk d b₂ choices).candidates n) ∧
    (∀ m, b₂ = some m → d.IsAtOrAbove m n → (∀ a, b₁ = some a → d.IsAtOrAbove a m) →
      pathLevels d b₂ n <:+ pathLevels d b₁ n) ∧
    ∀ b choices, ∀ c ∈ (Inspector.mk d b choices).candidates n, c.kind = .fullPath →
      c.selector = " ".intercalate (pathLevels d b n) := by
  refine ⟨filter_candidates_eq d b₁ b₂ n, candidates_eq_of_isOff hd, ?_,
    fun _ _ _ => Inspector.selector_eq_fullPathText⟩
  rintro m rfl hm hb
  obtain ⟨up₁, h₁, -⟩ := hd.existsUnique_ascends b₁ n
  obtain ⟨up₂, h₂, -⟩ := hd.existsUnique_ascends (some m) n
  rw [pathLevels_of_ascends hd hn h₁, pathLevels_of_ascends hd hn h₂, List.reverse_suffix]
  exact (h₁.isPrefix hd h₂ hm hb).map d.levelText

/-- The second control of the sample form under several boundaries: under the form and under none
the lists agree but for the scoped kinds, and the path loses its first levels; under a text and
under a number that names no node the lists are the same. -/
theorem candidates_under_boundaries_formPage :
    TreeShaped formPage ∧ formPage.isElement 7 ∧
      (((Inspector.repeating formPage none).candidates 7).filter (!·.kind.isScoped)).map
          Candidate.withoutParent =
        (((Inspector.repeating formPage (some 3)).candidates 7).filter (!·.kind.isScoped)).map
          Candidate.withoutParent ∧
      formPage.IsOff (some 5) 7 ∧ formPage.IsOff (some 100) 7 ∧
      (∀ choices, (Inspector.mk formPage (some 5) choices).candidates 7 =
        (Inspector.mk formPage (some 100) choices).candidates 7) ∧
      formPage.IsAtOrAbove 3 7 ∧ formPage.IsAtOrAbove 2 3 ∧
      pathLevels formPage (some 3) 7 <:+ pathLevels formPage none 7 ∧
      pathLevels formPage (some 3) 7 <:+ pathLevels formPage (some 2) 7 := by
  have hn : formPage.isElement 7 := by decide
  have hform : formPage.parentElement? 3 = some 2 := by decide
  have hcontrol : formPage.parentElement? 7 = some 3 := by decide
  have htext : formPage.IsOff (some 5) 7 := isOff_of_not_isElement hn (by decide)
  have hnone : formPage.IsOff (some 100) 7 := isOff_of_not_isElement hn (by decide)
  have habove : formPage.IsAtOrAbove 3 7 := .single hcontrol
  have hbody : formPage.IsAtOrAbove 2 3 := .single hform
  have hlists := candidates_under_boundaries treeShaped_formPage hn none (some 3)
  have hpaths := candidates_under_boundaries treeShaped_formPage hn (some 2) (some 3)
  have hoff := candidates_under_boundaries treeShaped_formPage hn (some 5) (some 100)
  refine ⟨treeShaped_formPage, hn, hlists.1, htext, hnone, hoff.2.1 htext hnone, habove, hbody,
    hlists.2.2.1 3 rfl habove fun a ha => by simp at ha, hpaths.2.2.1 3 rfl habove fun a ha => ?_⟩
  obtain rfl := Option.some.inj ha
  exact hbody

end Lists

end Inspection

end SelectorFinder
