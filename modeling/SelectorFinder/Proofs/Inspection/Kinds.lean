import SelectorFinder.Proofs.Inspection.Contract

/-!
# Which Kinds of Candidates There Are

For every kind the condition on the document under which an element has a candidate of that
kind (`IsDue`), and that it has one exactly then, and only one. The conditions speak of
parents, children lists, attributes and tags alone, not of vicinities and walks.

## Main results

* `Vicinity.mem_kinds_iff`: a kind is proposed exactly if it is due.
* `kinds_of_candidates`: the kinds in the list that is handed out.
-/

namespace SelectorFinder.Inspection

open SelectorFinder.Dom SelectorFinder.Text

/-! ### When a kind is due -/

/-- The parent node of `n` is the element `p`. -/
def HasParentElement (d : Document) (n p : NodeId) : Prop :=
  d.parent? n = some p ∧ d.isElement p

/-- The tag of the element is the given one, up to the case of ASCII letters. -/
def HasName (d : Document) (name : String) (n : NodeId) : Prop :=
  ∃ e, d.element? n = some e ∧ lower e.tagName = lower name

/-- Names can be compared by looking the element up. -/
instance (d : Document) (name : String) (n : NodeId) : Decidable (HasName d name n) :=
  decidable_of_iff ((d.element? n).any fun e => lower e.tagName = lower name) <| by
    simp [HasName, Option.any_eq_true]

/-- **When a candidate of a kind is due** for the element `e` at the node `n`. -/
def IsDue (d : Document) (boundary : Option NodeId) (n : NodeId) (e : Element) :
    CandidateKind → Prop
  | .basic | .fullPath | .nthChild | .hover | .weightless => True
  | .attributes => ∃ a ∈ e.attributes.toList, "data-".toList <+: a.1.toList
  | .before | .after => e.localName ∉ Element.voidLikeTags
  | .visited => e.localName = "a"
  | .viaParent | .directChild => ∃ p, HasParentElement d n p ∧ boundary ≠ some p
  | .adjacentSibling => ∃ p before after, d.parent? n = some p ∧
      d.children p = before ++ n :: after ∧ ∃ m ∈ before, d.isElement m
  | .hasChild | .hasTag => ∃ c ∈ d.children n, d.isElement c
  | .notSibling => ∃ p, HasParentElement d n p ∧ ∃ m ∈ d.children p, d.isElement m ∧ m ≠ n
  | .notClass => 2 ≤ e.classes.length
  | .isParent => ∃ p, HasParentElement d n p
  | .nthOfType => ∃ p, HasParentElement d n p ∧
      2 ≤ ((d.children p).filter (HasName d e.tagName)).length
  | .firstChild => ∃ p, HasParentElement d n p ∧
      2 ≤ (d.elementChildren p).length ∧ (d.elementChildren p).head? = some n
  | .lastChild => ∃ p, HasParentElement d n p ∧
      2 ≤ (d.elementChildren p).length ∧ (d.elementChildren p).getLast? = some n
  | .onlyChild => ∃ p, HasParentElement d n p ∧ d.elementChildren p = [n]
  | .empty => (∀ c ∈ d.children n, ¬ d.isElement c) ∧
      ∀ c ∈ d.children n, ∀ data, d.text? c = some data → isBlankText data
  | .disabled | .enabled | .focus => e.localName ∈ Element.formControlTags
  | .focusWithin => e.localName ∈ Element.formControlTags ∧ ∃ p, HasParentElement d n p
  | .checked => e.localName = "input" ∧ ∃ type, e.attributes.get? "type" = some type ∧
      (lower type = "checkbox" ∨ lower type = "radio")
  | .required | .optional | .valid | .invalid => e.localName = "input"

/-! ### The tests on an element -/

section Element

variable {e : Element}

/-- A list of names in lower case is searched for the tag up to case. -/
theorem any_hasTag_iff {names : List String} (h : ∀ name ∈ names, lower name = name) :
    names.any e.hasTag ↔ e.localName ∈ names := by
  rw [List.any_eq_true]
  constructor
  · rintro ⟨name, hn, ht⟩
    rw [Element.hasTag, sameName_iff, h name hn] at ht
    rw [Element.localName, ht]
    exact hn
  · intro hn
    refine ⟨_, hn, ?_⟩
    rw [Element.hasTag, sameName_iff, h _ hn]
    rfl

/-- What takes no generated content is told by the tag. -/
theorem isVoidLike_iff : e.isVoidLike ↔ e.localName ∈ Element.voidLikeTags :=
  any_hasTag_iff (by decide)

/-- A form control is told by the tag. -/
theorem isFormControl_iff : e.isFormControl ↔ e.localName ∈ Element.formControlTags :=
  any_hasTag_iff (by decide)

/-- A link is an `a` element. -/
theorem isAnchor_iff : e.isAnchor ↔ e.localName = "a" := by
  rw [Element.isAnchor, Element.hasTag, sameName_iff, show lower "a" = "a" by decide]
  rfl

/-- An input is an `input` element. -/
theorem isInput_iff : e.isInput ↔ e.localName = "input" := by
  rw [Element.isInput, Element.hasTag, sameName_iff, show lower "input" = "input" by decide]
  rfl

/-- An input can be checked if it is of one of two types, in any case. -/
theorem isCheckableInput_iff :
    e.isCheckableInput ↔ e.localName = "input" ∧ ∃ type, e.attributes.get? "type" = some type ∧
      (lower type = "checkbox" ∨ lower type = "radio") := by
  rw [Element.isCheckableInput, Bool.and_eq_true, isInput_iff]
  refine and_congr_right fun _ => ?_
  cases e.attributes.get? "type" with
  | none => simp
  | some type =>
    simp [sameName_iff, show lower "checkbox" = "checkbox" by decide,
      show lower "radio" = "radio" by decide]

end Element

/-! ### The tests on a vicinity -/

namespace Vicinity

variable {v : Vicinity}

/-- There are data attributes if some attribute has a name with their prefix. -/
theorem dataAttributes_ne_nil_iff :
    v.dataAttributes ≠ [] ↔
      ∃ a ∈ v.element.attributes.toList, "data-".toList <+: a.1.toList := by
  simp only [dataAttributes_eq, Element.dataAttributes, ne_eq, List.filter_eq_nil_iff, not_forall,
    String.startsWith_string_iff, not_not, exists_prop]

/-- The parent of a vicinity is that of the parent element. -/
theorem hasParentElement_of_parent? {p : Vicinity} (h : v.parent? = some p) :
    HasParentElement v.document v.node p.node := by
  obtain ⟨hn, hm⟩ := parent?_eq_some_iff.1 h
  exact ⟨hm, hn.isElement⟩

/-- Where there is a parent element, the parent of the vicinity is its vicinity. -/
theorem exists_parent?_of_hasParentElement {m : NodeId}
    (h : HasParentElement v.document v.node m) : ∃ p, v.parent? = some p ∧ p.node = m := by
  obtain ⟨p, hp⟩ := exists_parent?_iff.2 ⟨m, h⟩
  have hm := (parent?_eq_some_iff.1 hp).2
  exact ⟨p, hp, Option.some.inj (hm.symm.trans h.1)⟩

/-- There is a parent to start from if the parent is an element and not the boundary. -/
theorem exists_anchor?_iff :
    (∃ p, v.anchor? = some p) ↔
      ∃ m, HasParentElement v.document v.node m ∧ v.boundary ≠ some m := by
  constructor
  · rintro ⟨p, hp⟩
    obtain ⟨hp, hb⟩ := anchor?_eq_some_iff.1 hp
    exact ⟨p.node, hasParentElement_of_parent? hp, hb⟩
  · rintro ⟨m, hm, hb⟩
    obtain ⟨p, hp, rfl⟩ := exists_parent?_of_hasParentElement hm
    exact ⟨p, anchor?_eq_some_iff.2 ⟨hp, hb⟩⟩

/-- There is a first child if some child is an element. -/
theorem exists_children_cons_iff :
    (∃ c cs, v.children = c :: cs) ↔
      ∃ c ∈ v.document.children v.node, v.document.isElement c := by
  rw [← List.ne_nil_iff_exists_cons, Ne, ← List.map_eq_nil_iff (f := Vicinity.node),
    map_node_children, Document.elementChildren, List.filter_eq_nil_iff]
  simp

/-- There is none if no child is an element. -/
theorem children_eq_nil_iff :
    v.children = [] ↔ ∀ c ∈ v.document.children v.node, ¬ v.document.isElement c := by
  rw [← List.map_eq_nil_iff (f := Vicinity.node), map_node_children, Document.elementChildren,
    List.filter_eq_nil_iff]

/-- What holds of the siblings is said of the element children of the parent element. -/
theorem siblings_iff {P : List NodeId → Prop} (hnil : ¬ P []) :
    P (v.siblings.map Vicinity.node) ↔
      ∃ p, HasParentElement v.document v.node p ∧ P (v.document.elementChildren p) := by
  constructor
  · intro h
    cases hp : v.parent? with
    | none =>
      rw [siblings_of_parent?_eq_none hp] at h
      exact absurd h hnil
    | some p =>
      rw [map_node_siblings hp] at h
      exact ⟨p.node, hasParentElement_of_parent? hp, h⟩
  · rintro ⟨m, hm, h⟩
    obtain ⟨p, hp, rfl⟩ := exists_parent?_of_hasParentElement hm
    rw [map_node_siblings hp]
    exact h

/-- There is something to exclude if the parent has another child element. -/
theorem exists_other_sibling_iff :
    (∃ w, v.siblings.find? (·.node != v.node) = some w) ↔
      ∃ p, HasParentElement v.document v.node p ∧
        ∃ m ∈ v.document.children p, v.document.isElement m ∧ m ≠ v.node := by
  have hsib := siblings_iff (v := v) (P := fun ns => ∃ m ∈ ns, m ≠ v.node) (by simp)
  simp only [Document.mem_elementChildren, and_assoc] at hsib
  rw [← Option.isSome_iff_exists, List.find?_isSome, ← hsib]
  simp

/-- There is a second class if there are two of them. -/
theorem two_le_classes_iff :
    (∃ first second more, v.classes = first :: second :: more) ↔
      2 ≤ v.element.classes.length := by
  rw [show v.element.classes = v.classes from rfl]
  rcases v.classes with _ | ⟨a, _ | ⟨b, l⟩⟩ <;> simp

/-- Elements of the same tag are those of the name of the tag. -/
theorem sameTag_iff {m : NodeId} :
    v.sameTag m = true ↔ HasName v.document v.element.tagName m := by
  rw [sameTag, Option.any_eq_true, HasName]
  simp only [Element.hasTag, sameName_iff]

/-- The element children of the same tag are the children of that name. -/
theorem filter_sameTag_elementChildren (v : Vicinity) (m : NodeId) :
    (v.document.elementChildren m).filter v.sameTag =
      (v.document.children m).filter (HasName v.document v.element.tagName) := by
  rw [Document.elementChildren, List.filter_filter]
  refine List.filter_congr fun c _ => ?_
  rw [Bool.eq_iff_iff, decide_eq_true_eq, Bool.and_eq_true, sameTag_iff, Document.isElement_iff]
  refine and_iff_left_of_imp ?_
  rintro ⟨e, he, -⟩
  exact ⟨e, he⟩

/-- There is an index if the parent holds another element of the same name. -/
theorem exists_typeIndex?_iff (hl : v.document.LinksAgree) (hv : v.Genuine) :
    (∃ k, Strategy.typeIndex? v = some k) ↔
      ∃ p, HasParentElement v.document v.node p ∧
        2 ≤ ((v.document.children p).filter
          (HasName v.document v.element.tagName)).length := by
  rw [Strategy.typeIndex?]
  constructor
  · rintro ⟨k, hk⟩
    split at hk
    next hlen =>
      cases hp : v.parent? with
      | none => simp [sameTagSiblings_of_parent?_eq_none hp] at hlen
      | some p =>
        refine ⟨p.node, hasParentElement_of_parent? hp, ?_⟩
        rw [← filter_sameTag_elementChildren, ← map_node_sameTagSiblings hp, List.length_map]
        exact hlen
    next => simp at hk
  · rintro ⟨m, hm, hlen⟩
    obtain ⟨p, hp, rfl⟩ := exists_parent?_of_hasParentElement hm
    rw [← filter_sameTag_elementChildren, ← map_node_sameTagSiblings hp,
      List.length_map] at hlen
    rw [if_pos (Nat.lt_of_succ_le hlen)]
    obtain ⟨before, after, -, hplace⟩ := placeIn?_sameTagSiblings_spec hl hv hp
    exact ⟨_, hplace⟩

/-- The first of several siblings is the head of the parent's child elements. -/
theorem exists_first_sibling_iff :
    (∃ first second more, v.siblings = first :: second :: more ∧ first.node = v.node) ↔
      ∃ p, HasParentElement v.document v.node p ∧
        2 ≤ (v.document.elementChildren p).length ∧
        (v.document.elementChildren p).head? = some v.node := by
  rw [← siblings_iff (P := fun ns => 2 ≤ ns.length ∧ ns.head? = some v.node) (by simp)]
  rcases v.siblings with _ | ⟨a, _ | ⟨b, l⟩⟩ <;> simp

/-- The last of several siblings ends the parent's child elements. -/
theorem exists_last_sibling_iff :
    (∃ first more last, v.siblings = first :: more ++ [last] ∧ last.node = v.node) ↔
      ∃ p, HasParentElement v.document v.node p ∧
        2 ≤ (v.document.elementChildren p).length ∧
        (v.document.elementChildren p).getLast? = some v.node := by
  rw [← siblings_iff (P := fun ns => 2 ≤ ns.length ∧ ns.getLast? = some v.node) (by simp)]
  constructor
  · rintro ⟨first, more, last, hs, hl⟩
    rw [hs, List.map_append, List.map_singleton, List.getLast?_concat, hl]
    simp
  · rintro ⟨hlen, hlast⟩
    rcases List.eq_nil_or_concat v.siblings with hs | ⟨init, last, hs⟩
    · simp [hs] at hlen
    · rw [hs, List.concat_eq_append, List.map_append, List.map_singleton] at hlen hlast
      rw [List.getLast?_concat] at hlast
      obtain ⟨first, more, rfl⟩ : ∃ first more, init = first :: more :=
        List.ne_nil_iff_exists_cons.1 (by rintro rfl; simp at hlen)
      exact ⟨first, more, last, by simpa using hs, Option.some.inj hlast⟩

/-- The only sibling is the only child element of the parent. -/
theorem exists_only_sibling_iff :
    (∃ only, v.siblings = [only] ∧ only.node = v.node) ↔
      ∃ p, HasParentElement v.document v.node p ∧
        v.document.elementChildren p = [v.node] := by
  rw [← siblings_iff (P := fun ns => ns = [v.node]) (by simp)]
  rcases v.siblings with _ | ⟨a, _ | ⟨b, l⟩⟩ <;> simp

/-- Whatever is proposed is due. -/
theorem isDue_of_proposes (hl : v.document.LinksAgree) (hv : v.Genuine) {p : Proposal}
    (h : Strategy.Proposes v p) :
    IsDue v.document v.boundary v.node v.element p.kind := by
  cases h with
  | basic | fullPath | nthChild | nthChildOfNone | hover | weightless => trivial
  | attributes h => exact dataAttributes_ne_nil_iff.1 h
  | before h | after h => exact mt isVoidLike_iff.2 (by simp [h])
  | visited h => exact isAnchor_iff.1 h
  | viaParent h | directChild h => exact exists_anchor?_iff.1 ⟨_, h⟩
  | adjacentSibling h =>
    exact hl.exists_previousElement?_iff.1 (exists_previous?_iff.1 ⟨_, h⟩)
  | hasChild h | hasTag h => exact exists_children_cons_iff.1 ⟨_, _, h⟩
  | notSibling h => exact exists_other_sibling_iff.1 ⟨_, h⟩
  | notClass h => exact two_le_classes_iff.1 ⟨_, _, _, h⟩
  | isParent h => exact exists_parent?_iff.1 ⟨_, h⟩
  | nthOfType h => exact (exists_typeIndex?_iff hl hv).1 ⟨_, h⟩
  | firstChild hs hf => exact exists_first_sibling_iff.1 ⟨_, _, _, hs, hf⟩
  | lastChild hs hf => exact exists_last_sibling_iff.1 ⟨_, _, _, hs, hf⟩
  | onlyChild hs hf => exact exists_only_sibling_iff.1 ⟨_, hs, hf⟩
  | empty hc ht => exact ⟨children_eq_nil_iff.1 hc, (hasText_eq_false_iff hl hv hc).1 ht⟩
  | disabled h | enabled h | focus h => exact isFormControl_iff.1 h
  | focusWithin h hp => exact ⟨isFormControl_iff.1 h, exists_parent?_iff.1 ⟨_, hp⟩⟩
  | checked _ h => exact isCheckableInput_iff.1 h
  | required h | optional h | valid h | invalid h => exact isInput_iff.1 h

/-- Whatever is due is proposed. -/
theorem exists_proposes_of_isDue (hl : v.document.LinksAgree) (hv : v.Genuine)
    {k : CandidateKind} (h : IsDue v.document v.boundary v.node v.element k) :
    ∃ p, Strategy.Proposes v p ∧ p.kind = k := by
  cases k with
  | basic => exact ⟨_, .basic, rfl⟩
  | fullPath => exact ⟨_, .fullPath, rfl⟩
  | nthChild =>
    cases hp : v.parent? with
    | none => exact ⟨_, .nthChildOfNone hp, rfl⟩
    | some p => exact ⟨_, .nthChild hp, rfl⟩
  | hover => exact ⟨_, .hover, rfl⟩
  | weightless => exact ⟨_, .weightless, rfl⟩
  | attributes => exact ⟨_, .attributes (dataAttributes_ne_nil_iff.2 h), rfl⟩
  | before => exact ⟨_, .before (Bool.eq_false_iff.2 (mt isVoidLike_iff.1 h)), rfl⟩
  | after => exact ⟨_, .after (Bool.eq_false_iff.2 (mt isVoidLike_iff.1 h)), rfl⟩
  | visited => exact ⟨_, .visited (isAnchor_iff.2 h), rfl⟩
  | viaParent =>
    obtain ⟨p, hp⟩ := exists_anchor?_iff.2 h
    exact ⟨_, .viaParent hp, rfl⟩
  | directChild =>
    obtain ⟨p, hp⟩ := exists_anchor?_iff.2 h
    exact ⟨_, .directChild hp, rfl⟩
  | adjacentSibling =>
    obtain ⟨w, hw⟩ := exists_previous?_iff.2 (hl.exists_previousElement?_iff.2 h)
    exact ⟨_, .adjacentSibling hw, rfl⟩
  | hasChild =>
    obtain ⟨c, cs, hc⟩ := exists_children_cons_iff.2 h
    exact ⟨_, .hasChild hc, rfl⟩
  | hasTag =>
    obtain ⟨c, cs, hc⟩ := exists_children_cons_iff.2 h
    exact ⟨_, .hasTag hc, rfl⟩
  | notSibling =>
    obtain ⟨w, hw⟩ := exists_other_sibling_iff.2 h
    exact ⟨_, .notSibling hw, rfl⟩
  | notClass =>
    obtain ⟨first, second, more, hc⟩ := two_le_classes_iff.2 h
    exact ⟨_, .notClass hc, rfl⟩
  | isParent =>
    obtain ⟨p, hp⟩ := exists_parent?_iff.2 h
    exact ⟨_, .isParent hp, rfl⟩
  | nthOfType =>
    obtain ⟨i, hi⟩ := (exists_typeIndex?_iff hl hv).2 h
    exact ⟨_, .nthOfType hi, rfl⟩
  | firstChild =>
    obtain ⟨first, second, more, hs, hf⟩ := exists_first_sibling_iff.2 h
    exact ⟨_, .firstChild hs hf, rfl⟩
  | lastChild =>
    obtain ⟨first, more, last, hs, hf⟩ := exists_last_sibling_iff.2 h
    exact ⟨_, .lastChild hs hf, rfl⟩
  | onlyChild =>
    obtain ⟨only, hs, hf⟩ := exists_only_sibling_iff.2 h
    exact ⟨_, .onlyChild hs hf, rfl⟩
  | empty =>
    have hc := children_eq_nil_iff.2 h.1
    exact ⟨_, .empty hc ((hasText_eq_false_iff hl hv hc).2 h.2), rfl⟩
  | disabled => exact ⟨_, .disabled (isFormControl_iff.2 h), rfl⟩
  | enabled => exact ⟨_, .enabled (isFormControl_iff.2 h), rfl⟩
  | focus => exact ⟨_, .focus (isFormControl_iff.2 h), rfl⟩
  | focusWithin =>
    obtain ⟨p, hp⟩ := exists_parent?_iff.2 h.2
    exact ⟨_, .focusWithin (isFormControl_iff.2 h.1) hp, rfl⟩
  | checked =>
    exact ⟨_, .checked (isInput_iff.2 h.1) (isCheckableInput_iff.2 h), rfl⟩
  | required => exact ⟨_, .required (isInput_iff.2 h), rfl⟩
  | optional => exact ⟨_, .optional (isInput_iff.2 h), rfl⟩
  | valid => exact ⟨_, .valid (isInput_iff.2 h), rfl⟩
  | invalid => exact ⟨_, .invalid (isInput_iff.2 h), rfl⟩

/-- **A kind is proposed exactly if it is due.** -/
theorem mem_kinds_iff (hl : v.document.LinksAgree) (hv : v.Genuine) {k : CandidateKind} :
    k ∈ v.candidates.map Candidate.kind ↔
      IsDue v.document v.boundary v.node v.element k := by
  rw [map_kind_candidates, List.mem_map]
  constructor
  · rintro ⟨p, hp, rfl⟩
    exact isDue_of_proposes hl hv (Strategy.mem_proposals_iff.1 hp)
  · intro h
    obtain ⟨p, hp, hk⟩ := exists_proposes_of_isDue hl hv h
    exact ⟨p, Strategy.mem_proposals_iff.2 hp, hk⟩

end Vicinity

/-! ### The kinds in the list -/

namespace Inspector

variable {d : Document} {boundary : Option NodeId} {n : NodeId}

/-- **The kinds that are handed out**: none for a node that is no element; for an element no
kind twice, and a kind exactly if it is due. -/
theorem kinds_of_candidates (hd : Document.TreeShaped d) (boundary : Option NodeId)
    (n : NodeId) :
    (d.isElement n = false → (repeating d boundary).candidates n = []) ∧
    ∀ e, d.element? n = some e →
      (((repeating d boundary).candidates n).map Candidate.kind).Nodup ∧
      ∀ k, k ∈ ((repeating d boundary).candidates n).map Candidate.kind ↔
        IsDue d boundary n e k := by
  constructor
  · intro hn
    have hnone : Vicinity.at? d boundary n = none := by
      rw [Vicinity.at?, Option.map_eq_none_iff, ← Option.not_isSome_iff_eq_none]
      simpa [Document.isElement] using hn
    rw [candidates_repeating, emitted_of_at?_eq_none hnone]
    simp [rankBy]
  · intro e he
    obtain ⟨v, hv⟩ : ∃ v, Vicinity.at? d boundary n = some v :=
      exists_at?_of_isElement (Document.isElement_iff.2 ⟨e, he⟩)
    obtain ⟨rfl, rfl, rfl, hgenuine⟩ := Vicinity.at?_eq_some_iff.1 hv
    obtain rfl : v.element = e := Option.some.inj (hgenuine.symm.trans he)
    have hperm : (((repeating v.document v.boundary).candidates v.node).map Candidate.kind).Perm
        (v.candidates.map Candidate.kind) := by
      rw [candidates_repeating, emitted_of_at? hv]
      exact (perm_rankBy _ _).map _
    refine ⟨hperm.nodup_iff.2 ?_, fun k => ?_⟩
    · exact v.map_kind_candidates ▸ Strategy.nodup_kinds v
    · exact hperm.mem_iff.trans (Vicinity.mem_kinds_iff hd.linksAgree hgenuine)

/-- The kinds of the second control of a form, below the body as boundary: no kind comes
twice, and exactly those come that are due. -/
theorem kinds_of_candidates_formPage :
    Document.TreeShaped Document.formPage ∧
    Document.formPage.element? 7 = some ⟨"INPUT", .empty⟩ ∧
    (((repeating Document.formPage (some 2)).candidates 7).map Candidate.kind).Nodup ∧
    (∀ k, k ∈ ((repeating Document.formPage (some 2)).candidates 7).map Candidate.kind ↔
      IsDue Document.formPage (some 2) 7 ⟨"INPUT", .empty⟩ k) := by
  have helement : Document.formPage.element? 7 = some ⟨"INPUT", .empty⟩ := by decide
  obtain ⟨hnodup, hdue⟩ :=
    (kinds_of_candidates Document.treeShaped_formPage (some 2) 7).2 _ helement
  exact ⟨Document.treeShaped_formPage, helement, hnodup, hdue⟩

end Inspector

end SelectorFinder.Inspection
