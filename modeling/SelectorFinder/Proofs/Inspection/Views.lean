import SelectorFinder.Inspection.Strategy
import SelectorFinder.Proofs.Dom.Counterparts
import SelectorFinder.Proofs.Inspection.Neighbourhood

/-!
# Vicinities That Look Alike

What the strategies read of a vicinity: of the element itself everything, of the parent, the
element before, the children and the siblings only their elements and which of them it is
itself, and on the way up the same of each parent. So two vicinities have the same candidates
as soon as a relation between vicinities holds of them that is kept on the way up, a
simulation. Which documents they belong to, and what else these hold, makes no difference.

## Main results

* `Simulation.strategy_eq`: every strategy proposes the same for two such vicinities.
* `Simulation.levels_eq`: they have the same path, level by level.
* `Simulation.candidates_eq`: they have the same candidates.
-/

namespace SelectorFinder.Inspection

open SelectorFinder.Dom SelectorFinder.Selector

/-- Vicinities of the same element, in whatever surroundings. -/
def SameElement (v w : Vicinity) : Prop :=
  v.element = w.element

/-- Two neighbours are the same element, and both are the vicinity itself or none of them. -/
structure SameAmong (v w : Vicinity) (v' w' : Vicinity) : Prop where
  sameElement : SameElement v' w'
  beq_node_eq : (v'.node == v.node) = (w'.node == w.node)

/-- **Simulations** between vicinities: related ones look alike, and so do their parents, if
they have any, again and again. -/
structure Simulation (R : Vicinity → Vicinity → Prop) : Prop where
  sameElement {v w : Vicinity} : R v w → SameElement v w
  isBoundary_eq {v w : Vicinity} : R v w → v.isBoundary = w.isBoundary
  isDocumentElement_eq {v w : Vicinity} : R v w → v.isDocumentElement = w.isDocumentElement
  parent? {v w : Vicinity} : R v w → Option.Rel R v.parent? w.parent?
  previous? {v w : Vicinity} : R v w → Option.Rel SameElement v.previous? w.previous?
  children {v w : Vicinity} : R v w → List.Forall₂ SameElement v.children w.children
  siblings {v w : Vicinity} : R v w → List.Forall₂ (SameAmong v w) v.siblings w.siblings
  hasText_eq {v w : Vicinity} : R v w → v.children = [] → w.children = [] →
    v.hasText = w.hasText

variable {R : Vicinity → Vicinity → Prop} {v w : Vicinity}

/-! ### The element -/

namespace SameElement

open Strategy

/-- The same element has the same id. -/
theorem id?_eq (h : SameElement v w) : v.id? = w.id? :=
  congrArg Element.id? h

/-- The same element has the same classes. -/
theorem classes_eq (h : SameElement v w) : v.classes = w.classes :=
  congrArg Element.classes h

/-- The same element has the same tag. -/
theorem tag_eq (h : SameElement v w) : v.tag = w.tag :=
  congrArg Element.localName h

/-- The same element has the same attributes. -/
theorem attributes_eq (h : SameElement v w) : v.attributes = w.attributes := by
  have he : v.element = w.element := h
  rw [Vicinity.attributes, Vicinity.attributes, he]

/-- The basic selector is the same, as it is made of the id, the classes and the tag. -/
theorem basic_eq (h : SameElement v w) : v.basic = w.basic := by
  rw [Vicinity.basic, Vicinity.basic, h.id?_eq, h.classes_eq, h.tag_eq]

/-- The summary is the same, as it is made of these and of attributes. -/
theorem summary_eq (h : SameElement v w) : v.summary = w.summary := by
  rw [Vicinity.summary, Vicinity.summary, Vicinity.notableAttributes, Vicinity.notableAttributes,
    h.tag_eq, h.id?_eq, h.classes_eq, h.attributes_eq]

/-- The tag is the same as a compound. -/
theorem tagged_eq (h : SameElement v w) : tagged v = tagged w := by
  rw [tagged, tagged, h.tag_eq]

/-- The basic selector is the same as a compound. -/
theorem basicOf_eq (h : SameElement v w) : basicOf v = basicOf w := by
  rw [basicOf, basicOf, h.basic_eq]

/-- A state of the element is proposed in the same way. -/
theorem inState_eq (h : SameElement v w) (kind : CandidateKind) (state description : String) :
    inState kind state description v = inState kind state description w := by
  rw [inState, inState, h.basicOf_eq]

/-- The data attributes that are proposed are the same. -/
theorem dataAttributes_eq (h : SameElement v w) : dataAttributes v = dataAttributes w := by
  rw [dataAttributes, dataAttributes, Vicinity.dataAttributes, Vicinity.dataAttributes,
    h.attributes_eq, h.tagged_eq]

/-- What is proposed from a neighbour is the same, if the neighbours are the same element. -/
theorem fromNeighbour_eq {neighbour? : Vicinity → Option Vicinity} (h : SameElement v w)
    (hneighbour : Option.Rel SameElement (neighbour? v) (neighbour? w)) (kind : CandidateKind)
    (combinator : Combinator) (description : String) :
    fromNeighbour neighbour? kind combinator description v =
      fromNeighbour neighbour? kind combinator description w := by
  rw [fromNeighbour, fromNeighbour, h.tagged_eq]
  rcases rel_cases hneighbour with ⟨h₁, h₂⟩ | ⟨w₁, w₂, h₁, h₂, hw⟩
  · rw [h₁, h₂]
  · simp only [h₁, h₂, hw.basicOf_eq]

end SameElement

namespace Simulation

/-! ### The neighbourhood -/

/-- The parents below the boundary are related, if there are any. -/
theorem anchor? (hR : Simulation R) (h : R v w) : Option.Rel R v.anchor? w.anchor? :=
  rel_option_filter (hR.parent? h) fun _ _ hp => congrArg not (hR.isBoundary_eq hp)

/-- The siblings of the same tag look alike one by one. -/
theorem sameTagSiblings (hR : Simulation R) (h : R v w) :
    List.Forall₂ (SameAmong v w) v.sameTagSiblings w.sameTagSiblings := by
  have he : v.element = w.element := hR.sameElement h
  refine List.rel_filter (fun c₁ c₂ hc => ?_) (hR.siblings h)
  have hc : c₁.element = c₂.element := hc.sameElement
  simp only [hc, he]

/-- Both have the same place among neighbours that look alike. -/
theorem placeIn?_eq {among₁ among₂ : List Vicinity}
    (ha : List.Forall₂ (SameAmong v w) among₁ among₂) :
    v.placeIn? among₁ = w.placeIn? among₂ := by
  rw [Vicinity.placeIn?, Vicinity.placeIn?, findIdx?_eq ha fun _ _ hc => hc.beq_node_eq]

/-- Related vicinities have the same position among their siblings. -/
theorem position_eq (hR : Simulation R) (h : R v w) : v.position = w.position := by
  rw [Vicinity.position, Vicinity.position, placeIn?_eq (hR.siblings h)]

/-- Related vicinities have the same index among the siblings of the same tag. -/
theorem typeIndex?_eq (hR : Simulation R) (h : R v w) :
    Strategy.typeIndex? v = Strategy.typeIndex? w := by
  rw [Strategy.typeIndex?, Strategy.typeIndex?, (hR.sameTagSiblings h).length_eq,
    placeIn?_eq (hR.sameTagSiblings h)]

/-- Related vicinities have the same summary of the parent. -/
theorem parentSummary?_eq (hR : Simulation R) (h : R v w) :
    v.parentSummary? = w.parentSummary? := by
  have hparent : Option.Rel R
      (v.parent?.filter fun p => !p.isBoundary && !p.isDocumentElement)
      (w.parent?.filter fun p => !p.isBoundary && !p.isDocumentElement) :=
    rel_option_filter (hR.parent? h) fun _ _ hp => by
      rw [hR.isBoundary_eq hp, hR.isDocumentElement_eq hp]
  rw [Vicinity.parentSummary?, Vicinity.parentSummary?]
  rcases rel_cases hparent with ⟨h₁, h₂⟩ | ⟨p₁, p₂, h₁, h₂, hp⟩
  · rw [h₁, h₂]
  · rw [h₁, h₂, Option.map_some, Option.map_some, (hR.sameElement hp).summary_eq]

/-! ### Strategies -/

section Strategies

open Strategy

/-- Related vicinities have the same level of a path. -/
theorem level_eq (hR : Simulation R) (h : R v w) : level v = level w := by
  have he := hR.sameElement h
  rw [level, level, he.id?_eq, he.tag_eq, he.classes_eq, hR.typeIndex?_eq h]

/-- **Related vicinities have the same levels above them**, with budgets above their depth. The
walk is the same step by step: it stops at the same level, and goes on with the parents. -/
theorem levels_eq (hR : Simulation R) (h : R v w) {k b₁ b₂ : Nat}
    (hk : v.document.HasDepth v.node k) (hb₁ : k < b₁) (hb₂ : k < b₂) :
    levels b₁ v = levels b₂ w := by
  induction b₁ generalizing v w k b₂ with
  | zero => exact absurd hb₁ (Nat.not_lt_zero k)
  | succ b₁ ih =>
    obtain ⟨b₂, rfl⟩ := Nat.exists_eq_add_one.2 (Nat.zero_lt_of_lt hb₂)
    rw [levels, levels, (hR.sameElement h).id?_eq, hR.isBoundary_eq h, hR.level_eq h]
    refine if_congr Iff.rfl rfl ?_
    rcases rel_cases (hR.anchor? h) with ⟨h₁, h₂⟩ | ⟨p₁, p₂, h₁, h₂, hp⟩
    · rw [h₁, h₂]
    · obtain ⟨hneighbour, hup⟩ :=
        Vicinity.parent?_eq_some_iff.1 (Vicinity.anchor?_eq_some_iff.1 h₁).1
      cases hk with
      | top hnone => simp [hnone] at hup
      | @down _ p k hparent hk =>
        obtain rfl : p = p₁.node := Option.some.inj (hparent.symm.trans hup)
        rw [← hneighbour.document] at hk
        simp only [h₁, h₂, ih hp hk (Nat.lt_of_succ_lt_succ hb₁) (Nat.lt_of_succ_lt_succ hb₂)]

/-- The place among the parent's children is proposed alike. -/
theorem nthChild_eq (hR : Simulation R) (h : R v w) : nthChild v = nthChild w := by
  rw [nthChild, nthChild, (hR.sameElement h).tagged_eq, hR.position_eq h]
  rcases rel_cases (hR.parent? h) with ⟨h₁, h₂⟩ | ⟨p₁, p₂, h₁, h₂, hp⟩
  · rw [h₁, h₂]
  · simp only [h₁, h₂, (hR.sameElement hp).tagged_eq]

/-- The first child is proposed alike. -/
theorem has_eq (hR : Simulation R) (h : R v w) : has v = has w := by
  have hchildren := hR.children h
  rw [has, has, (hR.sameElement h).tagged_eq]
  generalize v.children = cs₁ at hchildren
  generalize w.children = cs₂ at hchildren
  cases hchildren with
  | nil => rfl
  | cons hc _ => simp only [hc.basic_eq, hc.tag_eq]

/-- The exclusion of another child of the parent is proposed alike. -/
theorem notSibling_eq (hR : Simulation R) (h : R v w) : notSibling v = notSibling w := by
  have he := hR.sameElement h
  have hother : Option.Rel (SameAmong v w) (v.siblings.find? (·.node != v.node))
      (w.siblings.find? (·.node != w.node)) :=
    rel_find? (hR.siblings h) fun _ _ hw => congrArg not hw.beq_node_eq
  rw [notSibling, notSibling, he.tagged_eq, he.tag_eq]
  rcases rel_cases hother with ⟨h₁, h₂⟩ | ⟨w₁, w₂, h₁, h₂, hw⟩
  · rw [h₁, h₂]
  · simp only [h₁, h₂, hw.sameElement.basic_eq]

/-- The parent as an argument is proposed alike. -/
theorem isParent_eq (hR : Simulation R) (h : R v w) : isParent v = isParent w := by
  rw [isParent, isParent, (hR.sameElement h).tagged_eq]
  rcases rel_cases (hR.parent? h) with ⟨h₁, h₂⟩ | ⟨p₁, p₂, h₁, h₂, hp⟩
  · rw [h₁, h₂]
  · simp only [h₁, h₂, (hR.sameElement hp).basic_eq]

/-- The first, the last and the only child are proposed alike. -/
theorem childPosition_eq (hR : Simulation R) (h : R v w) :
    childPosition v = childPosition w := by
  have hstate := (hR.sameElement h).inState_eq
  have hsiblings := hR.siblings h
  rw [childPosition, childPosition]
  generalize v.siblings = ws₁ at hsiblings
  generalize w.siblings = ws₂ at hsiblings
  cases hsiblings with
  | nil => rfl
  | cons hfirst hmore =>
    cases hmore with
    | nil => simp only [hfirst.beq_node_eq, hstate]
    | cons hsecond hmore =>
      have hlast := rel_getLastD (hmore.cons hsecond) hfirst
      simp only [hfirst.beq_node_eq, hlast.beq_node_eq, hstate]

/-- The state of an element without content is proposed alike: the children look alike, and where
there are none both have text or neither has. -/
theorem empty_eq (hR : Simulation R) (h : R v w) : Strategy.empty v = Strategy.empty w := by
  have hchildren := hR.children h
  rw [Strategy.empty, Strategy.empty, (hR.sameElement h).inState_eq]
  cases h₁ : v.children with
  | nil =>
    rw [h₁, List.forall₂_nil_left_iff] at hchildren
    rw [hchildren, hR.hasText_eq h h₁ hchildren]
  | cons c₁ cs₁ =>
    rw [h₁, List.forall₂_cons_left_iff] at hchildren
    obtain ⟨c₂, cs₂, -, -, h₂⟩ := hchildren
    rw [h₂]
    rfl

/-- The states of a form control are proposed alike, and its parent. -/
theorem formControl_eq (hR : Simulation R) (h : R v w) : formControl v = formControl w := by
  have he := hR.sameElement h
  have he' : v.element = w.element := he
  rw [formControl, formControl, he', he.tagged_eq]
  simp only [he.inState_eq]
  rcases rel_cases (hR.parent? h) with ⟨h₁, h₂⟩ | ⟨p₁, p₂, h₁, h₂, hp⟩
  · rw [h₁, h₂]
  · simp only [h₁, h₂, (hR.sameElement hp).basicOf_eq]

/-- **Every strategy proposes the same for related vicinities** at a depth for which both
documents are large enough. Strategies that look at the element alone are left to rewriting
with what the two have in common. -/
theorem strategy_eq (hR : Simulation R) (h : R v w) {k : Nat}
    (hk : v.document.HasDepth v.node k) (hv : k < v.document.size) (hw : k < w.document.size) :
    ∀ s ∈ strategies, s v = s w := by
  have he := hR.sameElement h
  have he' : v.element = w.element := he
  have hbasic : Strategy.basic v = Strategy.basic w := by
    rw [Strategy.basic, Strategy.basic, he.basicOf_eq]
  have hfullPath : fullPath v = fullPath w := by
    rw [fullPath, fullPath, hR.levels_eq h hk hv hw]
  have hpseudo : pseudoElements v = pseudoElements w := by
    rw [pseudoElements, pseudoElements, he', he.basicOf_eq]
  have hhover : hover v = hover w := by
    rw [hover, hover, he.inState_eq]
  have hvisited : visited v = visited w := by
    rw [visited, visited, he', he.inState_eq]
  have hnotClass : notClass v = notClass w := by
    rw [notClass, notClass, he.classes_eq, he.tagged_eq, he.tag_eq]
  have hweightless : weightless v = weightless w := by
    rw [weightless, weightless, he.basic_eq]
  have hnthOfType : nthOfType v = nthOfType w := by
    rw [nthOfType, nthOfType, hR.typeIndex?_eq h, he.tagged_eq, he.tag_eq]
  have hinput : input v = input w := by
    rw [input, input, he']
    simp only [he.inState_eq]
  have hanchor : Option.Rel SameElement v.anchor? w.anchor? :=
    rel_imp (hR.anchor? h) fun _ _ hp => hR.sameElement hp
  simp only [strategies, List.forall_mem_cons]
  exact ⟨hbasic, hfullPath, he.dataAttributes_eq, hR.nthChild_eq h, hpseudo, hhover, hvisited,
    he.fromNeighbour_eq hanchor .., he.fromNeighbour_eq hanchor ..,
    he.fromNeighbour_eq (hR.previous? h) .., hR.has_eq h, hR.notSibling_eq h, hnotClass,
    hweightless, hR.isParent_eq h, hnthOfType, hR.childPosition_eq h, hR.empty_eq h, hR.formControl_eq h, hinput, List.forall_mem_nil _⟩

/-- **The strategies together propose the same**, in the same order, and what they propose is
handed out with the same parent. -/
theorem candidates_eq (hR : Simulation R) (h : R v w) {k : Nat}
    (hk : v.document.HasDepth v.node k) (hv : k < v.document.size) (hw : k < w.document.size) :
    v.candidates = w.candidates := by
  have hproposals : v.proposals = w.proposals := List.flatMap_congr (hR.strategy_eq h hk hv hw)
  rw [Vicinity.candidates, Vicinity.candidates, hproposals]
  refine List.map_congr_left fun p _ => ?_
  rw [Proposal.toCandidate, Proposal.toCandidate, hR.parentSummary?_eq h]

end Strategies

end Simulation

end SelectorFinder.Inspection
