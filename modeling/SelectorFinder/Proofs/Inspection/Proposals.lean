import Mathlib.Data.List.Forall2
import SelectorFinder.Inspection.Strategy

/-!
# What Is Proposed for an Element

The strategies together, as one relation: `Proposes v p` has a rule for every kind of
candidate, with the condition under which it is proposed and the selector that is written
for it. Whatever is to be said of all candidates is said by cases on it.

## Main results

* `mem_proposals_iff`: the strategies propose exactly what the rules allow.
* `kinds_sublist_emissionOrder`, `nodup_kinds`: kinds come in a fixed order, none twice.
-/

namespace SelectorFinder.Inspection

open SelectorFinder.Selector

namespace Strategy

/-- **The rules of proposal**, one for each kind of candidate. -/
inductive Proposes (v : Vicinity) : Proposal → Prop
  | basic : Proposes v
      ⟨.basic, .ofCompound (basicOf v), "Simple selector by tag, class or id"⟩
  | fullPath : Proposes v
      ⟨.fullPath, .ofLevels (levels v.document.size v), "Full path from the document root"⟩
  | attributes : v.dataAttributes ≠ [] → Proposes v
      ⟨.attributes, .ofCompound (tagged v ++
        v.dataAttributes.map fun (name, value) => .simple (.attr name value)),
        "Based on the element's data attributes"⟩
  | nthChild {p : Vicinity} : v.parent? = some p → Proposes v
      ⟨.nthChild, .pair (tagged p) .child [.nthChild v.position],
        "Position relative to the parent"⟩
  | nthChildOfNone : v.parent? = none → Proposes v
      ⟨.nthChild, .ofCompound (tagged v), "Position relative to the parent"⟩
  | before : v.element.isVoidLike = false → Proposes v
      ⟨.before, .ofCompound (basicOf v ++ [.pseudoElement "before"]),
        "Pseudo-element before the content"⟩
  | after : v.element.isVoidLike = false → Proposes v
      ⟨.after, .ofCompound (basicOf v ++ [.pseudoElement "after"]),
        "Pseudo-element after the content"⟩
  | hover : Proposes v (inState .hover "hover" "State while hovered" v)
  | visited : v.element.isAnchor = true → Proposes v
      (inState .visited "visited" "Link already visited" v)
  | viaParent {p : Vicinity} : v.anchor? = some p → Proposes v
      ⟨.viaParent, .pair (basicOf p) .descendant (tagged v),
        "Targets the element through its parent"⟩
  | directChild {p : Vicinity} : v.anchor? = some p → Proposes v
      ⟨.directChild, .pair (basicOf p) .child (tagged v), "Direct child of the parent"⟩
  | adjacentSibling {w : Vicinity} : v.previous? = some w → Proposes v
      ⟨.adjacentSibling, .pair (basicOf w) .nextSibling (tagged v),
        "Element directly following a sibling"⟩
  | hasChild {c : Vicinity} {cs : List Vicinity} : v.children = c :: cs → Proposes v
      ⟨.hasChild, .ofCompound (tagged v ++ [.has c.basic]),
        "Element containing " ++ renderSimple c.basic⟩
  | hasTag {c : Vicinity} {cs : List Vicinity} : v.children = c :: cs → Proposes v
      ⟨.hasTag, .ofCompound (tagged v ++ [.has [.type c.tag]]),
        "Element containing a " ++ c.tag⟩
  | notSibling {w : Vicinity} : v.siblings.find? (·.node != v.node) = some w → Proposes v
      ⟨.notSibling, .ofCompound (tagged v ++ [.isNot w.basic]),
        v.tag ++ " that is not " ++ renderSimple w.basic⟩
  | notClass {first second : String} {more : List String} :
      v.classes = first :: second :: more → Proposes v
      ⟨.notClass, .ofCompound (tagged v ++ [.isNot [.className second]]),
        v.tag ++ " without the class " ++ second⟩
  | weightless : Proposes v
      ⟨.weightless, .ofCompound [.whereAny v.basic],
        "Zero-specificity selector (lowest priority)"⟩
  | isParent {p : Vicinity} : v.parent? = some p → Proposes v
      ⟨.isParent, .pair [.isAny p.basic] .descendant (tagged v), "Modern equivalent selector"⟩
  | nthOfType {k : Nat} : typeIndex? v = some k → Proposes v
      ⟨.nthOfType, .ofCompound (tagged v ++ [.nthOfType k]),
        v.tag ++ " number " ++ toString k ++ " of its type in the parent"⟩
  | firstChild {first second : Vicinity} {more : List Vicinity} :
      v.siblings = first :: second :: more → first.node = v.node → Proposes v
      (inState .firstChild "first-child" "First child of its parent" v)
  | lastChild {first last : Vicinity} {more : List Vicinity} :
      v.siblings = first :: more ++ [last] → last.node = v.node → Proposes v
      (inState .lastChild "last-child" "Last child of its parent" v)
  | onlyChild {only : Vicinity} : v.siblings = [only] → only.node = v.node → Proposes v
      (inState .onlyChild "only-child" "Only child of its parent" v)
  | empty : v.children = [] → v.hasText = false → Proposes v
      (inState .empty "empty" "Element without content" v)
  | disabled : v.element.isFormControl = true → Proposes v
      (inState .disabled "disabled" "Disabled form control" v)
  | enabled : v.element.isFormControl = true → Proposes v
      (inState .enabled "enabled" "Enabled form control" v)
  | focus : v.element.isFormControl = true → Proposes v
      (inState .focus "focus" "Control that has focus" v)
  | focusWithin {p : Vicinity} : v.element.isFormControl = true → v.parent? = some p → Proposes v
      ⟨.focusWithin, .pair (basicOf p ++ [.state "focus-within"]) .descendant (tagged v),
        "Child of an element that contains focus"⟩
  | checked : v.element.isInput = true → v.element.isCheckableInput = true → Proposes v
      (inState .checked "checked" "Checked input (checkbox or radio)" v)
  | required : v.element.isInput = true → Proposes v
      (inState .required "required" "Required field" v)
  | optional : v.element.isInput = true → Proposes v
      (inState .optional "optional" "Optional field" v)
  | valid : v.element.isInput = true → Proposes v
      (inState .valid "valid" "Field with a valid value" v)
  | invalid : v.element.isInput = true → Proposes v
      (inState .invalid "invalid" "Field with an invalid value" v)

/-! ### Every proposal follows a rule -/

section Sound

variable {v : Vicinity} {p : Proposal}

/-- Data attributes are proposed all together, if there are any. -/
theorem proposes_of_mem_dataAttributes (h : p ∈ Strategy.dataAttributes v) :
    Proposes v p := by
  rw [dataAttributes] at h
  split at h
  next => simp at h
  next hne =>
    obtain rfl := List.mem_singleton.1 h
    exact .attributes hne

/-- The place is proposed below a parent, and the tag alone where there is none. -/
theorem proposes_of_mem_nthChild (h : p ∈ Strategy.nthChild v) : Proposes v p := by
  rw [nthChild] at h
  obtain rfl := List.mem_singleton.1 h
  split
  next parent hp => exact .nthChild hp
  next hp => exact .nthChildOfNone hp

/-- What is generated before and after is proposed where there may be content. -/
theorem proposes_of_mem_pseudoElements (h : p ∈ Strategy.pseudoElements v) :
    Proposes v p := by
  rw [pseudoElements] at h
  split at h
  next => simp at h
  next hv =>
    have hv : v.element.isVoidLike = false := by simpa using hv
    rcases List.mem_cons.1 h with rfl | h
    · exact .before hv
    · obtain rfl := List.mem_singleton.1 h
      exact .after hv

/-- Only a link is proposed as visited. -/
theorem proposes_of_mem_visited (h : p ∈ Strategy.visited v) : Proposes v p := by
  rw [visited] at h
  split at h
  next ha =>
    obtain rfl := List.mem_singleton.1 h
    exact .visited ha
  next => simp at h

/-- **A strategy that starts from a neighbour** proposes one selector, if there is the
neighbour. -/
theorem mem_fromNeighbour_iff {neighbour? : Vicinity → Option Vicinity} {kind : CandidateKind}
    {combinator : Combinator} {description : String} :
    p ∈ fromNeighbour neighbour? kind combinator description v ↔
      ∃ w, neighbour? v = some w ∧
        p = ⟨kind, .pair (basicOf w) combinator (tagged v), description⟩ := by
  rw [fromNeighbour]
  cases neighbour? v <;> simp

/-- The first child is proposed twice, by its basic selector and by its tag. -/
theorem proposes_of_mem_has (h : p ∈ Strategy.has v) : Proposes v p := by
  rw [has] at h
  split at h
  next c cs hc =>
    rcases List.mem_cons.1 h with rfl | h
    · exact .hasChild hc
    · obtain rfl := List.mem_singleton.1 h
      exact .hasTag hc
  next => simp at h

/-- What is excluded is the first other child of the parent. -/
theorem proposes_of_mem_notSibling (h : p ∈ Strategy.notSibling v) : Proposes v p := by
  rw [notSibling] at h
  split at h
  next w hw =>
    obtain rfl := List.mem_singleton.1 h
    exact .notSibling hw
  next => simp at h

/-- What is excluded is the second class of the element. -/
theorem proposes_of_mem_notClass (h : p ∈ Strategy.notClass v) : Proposes v p := by
  rw [notClass] at h
  split at h
  next first second more hc =>
    obtain rfl := List.mem_singleton.1 h
    exact .notClass hc
  next => simp at h

/-- The parent is proposed as an argument, whatever the boundary is. -/
theorem proposes_of_mem_isParent (h : p ∈ Strategy.isParent v) : Proposes v p := by
  rw [isParent] at h
  split at h
  next parent hp =>
    obtain rfl := List.mem_singleton.1 h
    exact .isParent hp
  next => simp at h

/-- The index is proposed where it tells the element from others of its tag. -/
theorem proposes_of_mem_nthOfType (h : p ∈ Strategy.nthOfType v) : Proposes v p := by
  rw [nthOfType] at h
  split at h
  next k hk =>
    obtain rfl := List.mem_singleton.1 h
    exact .nthOfType hk
  next => simp at h

/-- An element is proposed as the first child, the last one or both, or as the only one: the two do
not come together. -/
theorem proposes_of_mem_childPosition (h : p ∈ Strategy.childPosition v) : Proposes v p := by
  rw [childPosition] at h
  split at h
  next => simp at h
  next only hs =>
    split at h
    next ho =>
      obtain rfl := List.mem_singleton.1 h
      exact .onlyChild hs (by simpa using ho)
    next => simp at h
  next first second more hs =>
    rcases List.mem_append.1 h with h | h
    · split at h
      next hf =>
        obtain rfl := List.mem_singleton.1 h
        exact .firstChild hs (by simpa using hf)
      next => simp at h
    · split at h
      next hl =>
        obtain rfl := List.mem_singleton.1 h
        rw [List.getLastD_eq_getLast?, List.getLast?_eq_some_getLast (List.cons_ne_nil _ _),
          Option.getD_some] at hl
        have hs' : v.siblings = first :: (second :: more).dropLast ++
            [(second :: more).getLast (List.cons_ne_nil _ _)] := by
          rw [hs, List.cons_append, List.dropLast_concat_getLast]
        exact .lastChild hs' (by simpa using hl)
      next => simp at h

/-- An element is proposed as empty if no child element and no text is in it. -/
theorem proposes_of_mem_empty (h : p ∈ Strategy.empty v) : Proposes v p := by
  rw [Strategy.empty] at h
  split at h
  next he =>
    obtain rfl := List.mem_singleton.1 h
    have he : v.children = [] ∧ v.hasText = false := by simpa using he
    exact .empty he.1 he.2
  next => simp at h

/-- A form control is proposed in its three states, and in its parent if it has one. -/
theorem proposes_of_mem_formControl (h : p ∈ Strategy.formControl v) : Proposes v p := by
  rw [formControl] at h
  split at h
  next hf =>
    rcases List.mem_append.1 h with h | h
    · simp only [List.mem_cons, List.not_mem_nil, or_false] at h
      rcases h with rfl | rfl | rfl
      · exact .disabled hf
      · exact .enabled hf
      · exact .focus hf
    · split at h
      next parent hp =>
        obtain rfl := List.mem_singleton.1 h
        exact .focusWithin hf hp
      next => simp at h
  next => simp at h

/-- An input is proposed as checked only where it can be, and in four more states. -/
theorem proposes_of_mem_input (h : p ∈ Strategy.input v) : Proposes v p := by
  rw [input] at h
  split at h
  next hi =>
    rcases List.mem_append.1 h with h | h
    · split at h
      next hc =>
        obtain rfl := List.mem_singleton.1 h
        exact .checked hi hc
      next => simp at h
    · simp only [List.mem_cons, List.not_mem_nil, or_false] at h
      rcases h with rfl | rfl | rfl | rfl
      · exact .required hi
      · exact .optional hi
      · exact .valid hi
      · exact .invalid hi
  next => simp at h

end Sound

/-- **Soundness**: whatever the strategies propose follows a rule. -/
theorem proposes_of_mem {v : Vicinity} {p : Proposal} (h : p ∈ v.proposals) : Proposes v p := by
  simp only [Vicinity.proposals, strategies, List.flatMap_cons, List.flatMap_nil,
    List.append_nil, List.mem_append] at h
  rcases h with h | h | h | h | h | h | h | h | h | h | h | h | h | h | h | h | h | h | h | h
  · obtain rfl := List.mem_singleton.1 h
    exact .basic
  · obtain rfl := List.mem_singleton.1 h
    exact .fullPath
  · exact proposes_of_mem_dataAttributes h
  · exact proposes_of_mem_nthChild h
  · exact proposes_of_mem_pseudoElements h
  · obtain rfl := List.mem_singleton.1 h
    exact .hover
  · exact proposes_of_mem_visited h
  · obtain ⟨w, hw, rfl⟩ := mem_fromNeighbour_iff.1 h
    exact .viaParent hw
  · obtain ⟨w, hw, rfl⟩ := mem_fromNeighbour_iff.1 h
    exact .directChild hw
  · obtain ⟨w, hw, rfl⟩ := mem_fromNeighbour_iff.1 h
    exact .adjacentSibling hw
  · exact proposes_of_mem_has h
  · exact proposes_of_mem_notSibling h
  · exact proposes_of_mem_notClass h
  · obtain rfl := List.mem_singleton.1 h
    exact .weightless
  · exact proposes_of_mem_isParent h
  · exact proposes_of_mem_nthOfType h
  · exact proposes_of_mem_childPosition h
  · exact proposes_of_mem_empty h
  · exact proposes_of_mem_formControl h
  · exact proposes_of_mem_input h

/-! ### Every rule is followed -/

/-- What one of the strategies proposes is among the proposals. -/
theorem mem_proposals_of_mem {v : Vicinity} {p : Proposal} {s : Strategy} (hs : s ∈ strategies)
    (hp : p ∈ s v) : p ∈ v.proposals :=
  List.mem_flatMap.2 ⟨s, hs, hp⟩

/-- The last of several siblings is proposed as such. -/
theorem mem_childPosition_lastChild {v first last : Vicinity} {more : List Vicinity}
    (hs : v.siblings = first :: more ++ [last]) (hl : last.node = v.node) :
    inState .lastChild "last-child" "Last child of its parent" v ∈ Strategy.childPosition v := by
  rw [childPosition, hs]
  cases more with
  | nil => simp [hl]
  | cons second more =>
    have hlast : (second :: (more ++ [last])).getLastD first = last := by
      rw [← List.cons_append, List.getLastD_concat]
    simp only [List.cons_append, hlast, hl]
    simp

/-- **Completeness**: what a rule allows is proposed. -/
theorem Proposes.mem_proposals {v : Vicinity} {p : Proposal} (h : Proposes v p) :
    p ∈ v.proposals := by
  cases h with
  | basic =>
    exact mem_proposals_of_mem (s := Strategy.basic) (by simp [strategies])
      (by simp [Strategy.basic])
  | fullPath =>
    exact mem_proposals_of_mem (s := Strategy.fullPath) (by simp [strategies])
      (by simp [Strategy.fullPath])
  | attributes h =>
    refine mem_proposals_of_mem (s := Strategy.dataAttributes) (by simp [strategies]) ?_
    rw [Strategy.dataAttributes]
    split
    next h' => exact absurd h' h
    next => exact List.mem_singleton_self _
  | nthChild h =>
    exact mem_proposals_of_mem (s := Strategy.nthChild) (by simp [strategies])
      (by simp [Strategy.nthChild, h])
  | nthChildOfNone h =>
    exact mem_proposals_of_mem (s := Strategy.nthChild) (by simp [strategies])
      (by simp [Strategy.nthChild, h])
  | before h | after h =>
    exact mem_proposals_of_mem (s := Strategy.pseudoElements) (by simp [strategies])
      (by simp [Strategy.pseudoElements, h])
  | hover =>
    exact mem_proposals_of_mem (s := Strategy.hover) (by simp [strategies])
      (by simp [Strategy.hover])
  | visited h =>
    exact mem_proposals_of_mem (s := Strategy.visited) (by simp [strategies])
      (by simp [Strategy.visited, h])
  | viaParent h =>
    exact mem_proposals_of_mem (s := Strategy.viaParent) (by simp [strategies])
      (mem_fromNeighbour_iff.2 ⟨_, h, rfl⟩)
  | directChild h =>
    exact mem_proposals_of_mem (s := Strategy.directChild) (by simp [strategies])
      (mem_fromNeighbour_iff.2 ⟨_, h, rfl⟩)
  | adjacentSibling h =>
    exact mem_proposals_of_mem (s := Strategy.adjacentSibling) (by simp [strategies])
      (mem_fromNeighbour_iff.2 ⟨_, h, rfl⟩)
  | hasChild h | hasTag h =>
    exact mem_proposals_of_mem (s := Strategy.has) (by simp [strategies])
      (by simp [Strategy.has, h])
  | notSibling h =>
    exact mem_proposals_of_mem (s := Strategy.notSibling) (by simp [strategies])
      (by simp [Strategy.notSibling, h])
  | notClass h =>
    exact mem_proposals_of_mem (s := Strategy.notClass) (by simp [strategies])
      (by simp [Strategy.notClass, h])
  | weightless =>
    exact mem_proposals_of_mem (s := Strategy.weightless) (by simp [strategies])
      (by simp [Strategy.weightless])
  | isParent h =>
    exact mem_proposals_of_mem (s := Strategy.isParent) (by simp [strategies])
      (by simp [Strategy.isParent, h])
  | nthOfType h =>
    exact mem_proposals_of_mem (s := Strategy.nthOfType) (by simp [strategies])
      (by simp [Strategy.nthOfType, h])
  | firstChild hs hf =>
    exact mem_proposals_of_mem (s := Strategy.childPosition) (by simp [strategies])
      (by simp [Strategy.childPosition, hs, hf])
  | lastChild hs hl =>
    exact mem_proposals_of_mem (s := Strategy.childPosition) (by simp [strategies])
      (mem_childPosition_lastChild hs hl)
  | onlyChild hs ho =>
    exact mem_proposals_of_mem (s := Strategy.childPosition) (by simp [strategies])
      (by simp [Strategy.childPosition, hs, ho])
  | empty hc ht =>
    exact mem_proposals_of_mem (s := Strategy.empty) (by simp [strategies])
      (by simp [Strategy.empty, hc, ht])
  | disabled h | enabled h | focus h =>
    exact mem_proposals_of_mem (s := Strategy.formControl) (by simp [strategies])
      (by simp [Strategy.formControl, h])
  | focusWithin h hp =>
    exact mem_proposals_of_mem (s := Strategy.formControl) (by simp [strategies])
      (by simp [Strategy.formControl, h, hp])
  | checked h hc =>
    exact mem_proposals_of_mem (s := Strategy.input) (by simp [strategies])
      (by simp [Strategy.input, h, hc])
  | required h | optional h | valid h | invalid h =>
    exact mem_proposals_of_mem (s := Strategy.input) (by simp [strategies])
      (by simp [Strategy.input, h])

/-- **The strategies propose exactly what the rules allow.** -/
theorem mem_proposals_iff {v : Vicinity} {p : Proposal} : p ∈ v.proposals ↔ Proposes v p :=
  ⟨proposes_of_mem, Proposes.mem_proposals⟩

/-! ### The order of the kinds -/

/-- The kinds that each strategy may propose, strategy by strategy. -/
def kindsByStrategy : List (List CandidateKind) :=
  [[.basic], [.fullPath], [.attributes], [.nthChild], [.before, .after], [.hover], [.visited],
   [.viaParent], [.directChild], [.adjacentSibling], [.hasChild, .hasTag], [.notSibling],
   [.notClass], [.weightless], [.isParent], [.nthOfType],
   [.firstChild, .lastChild, .onlyChild], [.empty], [.disabled, .enabled, .focus, .focusWithin],
   [.checked, .required, .optional, .valid, .invalid]]

/-- A strategy that starts from a neighbour keeps to its kind. -/
theorem map_kind_fromNeighbour_sublist (neighbour? : Vicinity → Option Vicinity)
    (kind : CandidateKind) (combinator : Combinator) (description : String) (v : Vicinity) :
    ((fromNeighbour neighbour? kind combinator description v).map Proposal.kind).Sublist
      [kind] := by
  rw [fromNeighbour]
  cases neighbour? v <;> simp

/-- A strategy keeps to its kinds and to their order. -/
theorem forall₂_kindsByStrategy (v : Vicinity) :
    List.Forall₂ (fun (s : Strategy) kinds => ((s v).map Proposal.kind).Sublist kinds)
      strategies kindsByStrategy := by
  simp only [strategies, kindsByStrategy, List.forall₂_cons, List.forall₂_nil_right_iff, and_true]
  refine ⟨.refl _, .refl _, ?dataAttributes, .refl _, ?pseudoElements, .refl _, ?visited,
    map_kind_fromNeighbour_sublist .., map_kind_fromNeighbour_sublist ..,
    map_kind_fromNeighbour_sublist .., ?has, ?notSibling, ?notClass, .refl _, ?isParent,
    ?nthOfType, ?childPosition, ?empty, ?formControl, ?input⟩
  case dataAttributes => rw [dataAttributes]; split <;> simp
  case pseudoElements => rw [pseudoElements]; split <;> simp
  case visited => rw [visited]; split <;> simp [inState]
  case has => rw [has]; split <;> simp
  case notSibling => rw [notSibling]; split <;> simp
  case notClass => rw [notClass]; split <;> simp
  case isParent => rw [isParent]; split <;> simp
  case nthOfType => rw [nthOfType]; split <;> simp
  case childPosition =>
    rw [childPosition]
    split
    next => simp
    next => split <;> simp [inState]
    next => dsimp only; split <;> split <;> simp [inState]
  case empty => rw [Strategy.empty]; split <;> simp [inState]
  case formControl =>
    rw [formControl]
    split
    next => cases v.parent? <;> simp [inState]
    next => simp
  case input =>
    rw [input]
    split
    next => by_cases hc : v.element.isCheckableInput <;> simp [inState, hc]
    next => simp

/-- The kinds in the order in which candidates are proposed. -/
def emissionOrder : List CandidateKind :=
  kindsByStrategy.flatten

/-- Stretches that keep to their kinds keep to them together. -/
theorem map_kind_flatMap_sublist {v : Vicinity} {ss : List Strategy}
    {kinds : List (List CandidateKind)}
    (h : List.Forall₂ (fun (s : Strategy) ks => ((s v).map Proposal.kind).Sublist ks) ss kinds) :
    ((ss.flatMap (· v)).map Proposal.kind).Sublist kinds.flatten := by
  induction h with
  | nil => exact .slnil
  | cons hs _ ih =>
    rw [List.flatMap_cons, List.map_append, List.flatten_cons]
    exact hs.append ih

/-- **The kinds come in the order of emission**, each at most once. -/
theorem kinds_sublist_emissionOrder (v : Vicinity) :
    (v.proposals.map Proposal.kind).Sublist emissionOrder :=
  map_kind_flatMap_sublist (forall₂_kindsByStrategy v)

/-- No kind comes twice in the order of the strategies. -/
theorem nodup_emissionOrder : emissionOrder.Nodup := by
  decide

/-- **No kind is proposed twice.** -/
theorem nodup_kinds (v : Vicinity) : (v.proposals.map Proposal.kind).Nodup :=
  nodup_emissionOrder.sublist (kinds_sublist_emissionOrder v)

end Strategy

end SelectorFinder.Inspection
