import SelectorFinder.Proofs.Inspection.Contract
import SelectorFinder.Proofs.Selector.Suffixes

/-!
# Which Candidates Come First

Where some of the candidates of an element stand in the ranked list. A pseudo-class that is put
behind the basic selector makes it heavier by one class, and generated content makes it no
heavier, so the states of the element come before its basic selector and the generated content
behind it. What weighs nothing comes last; and last of all comes the weightless candidate, since
every candidate that is proposed behind it has a pseudo-class that counts. All this is said of
weights that are scanned from the text. It holds for names of any characters but colons, also
where the brackets in a name swallow other parts of the text.

## Main results

* `exists_render_of_isState`: what the texts of the states are.
* `one_le_classes_of_isLate`: what is proposed behind the weightless candidate has weight.
* `candidates_precedence`: the order of these candidates in the ranked list.
-/

namespace SelectorFinder

open SelectorFinder.Dom SelectorFinder.Selector SelectorFinder.Text

/-! ### Names without colons -/

/-- **No colons**: neither the tag nor the id nor a class name has one. -/
structure Dom.Element.HasNoColon (e : Element) : Prop where
  tagName : ':' ∉ e.tagName.toList
  id : ∀ id ∈ e.id?, ':' ∉ id.toList
  classes : ∀ name ∈ e.classes, ':' ∉ name.toList

/-- No element of the document has a colon in a name. -/
def Dom.Document.HasNoColons (d : Document) : Prop :=
  ∀ n e, d.element? n = some e → e.HasNoColon

/-- A page with brackets in its names: what the id of the body opens is closed by the tag of the
element in it. -/
def Dom.Document.bracketPage : Document :=
  Document.empty
    |>.attach 0 (.element ⟨"body", .ofList [("id", "a[b")]⟩)
    |>.attach 1 (.element ⟨"x]", .ofList [("class", "c(d e")]⟩)

/-- Only the colon is a colon in lower case. -/
theorem Text.eq_colon_of_toLower {c : Char} (h : c.toLower = ':') : c = ':' := by
  rcases toLower_eq_or_lt c with hc | hc
  · exact hc.symm.trans h
  · exact forall_ascii (P := fun c => c.toLower = ':' → c = ':') (by decide) hc h

/-- No colon comes into a text by lower case. -/
theorem Text.colon_notMem_lower {s : String} (h : ':' ∉ s.toList) : ':' ∉ (lower s).toList := by
  intro hm
  rw [lower, String.toList_ofList] at hm
  obtain ⟨c, hc, hlower⟩ := List.mem_map.1 hm
  exact h (eq_colon_of_toLower hlower ▸ hc)

namespace Inspection

open Strategy

variable {v p : Vicinity} {q : Proposal}

/-- **The basic selector has no colon** where the names have none. -/
theorem Vicinity.colon_notMem_basic (h : v.element.HasNoColon) :
    ':' ∉ (renderSimple v.basic).toList := by
  rw [toList_renderSimple]
  intro hm
  obtain ⟨s, hs, hc⟩ := List.mem_flatMap.1 hm
  rw [basic] at hs
  split at hs
  next _ name hname =>
    rw [List.mem_singleton.1 hs] at hc
    exact h.id name hname (by simpa [Simple.render] using hc)
  next =>
    rw [List.mem_singleton.1 hs] at hc
    exact colon_notMem_lower h.tagName hc
  next =>
    obtain ⟨name, hm, rfl⟩ := List.mem_map.1 hs
    exact h.classes name hm (by simpa [Simple.render] using hc)

/-! ### The texts of the candidates -/

/-- The kinds whose text is the basic selector with a pseudo-class behind it. -/
def CandidateKind.isState : CandidateKind → Bool
  | hover | visited | firstChild | lastChild | onlyChild | empty | disabled | enabled | focus
  | checked | required | optional | valid | invalid => true
  | _ => false

/-- The kinds whose text is the basic selector, by itself or with generated content. -/
def CandidateKind.isBasicOrContent : CandidateKind → Bool
  | basic | before | after => true
  | _ => false

/-- The kinds that are proposed behind the weightless one. -/
def CandidateKind.isLate : CandidateKind → Bool
  | isParent | nthOfType | firstChild | lastChild | onlyChild | empty | disabled | enabled | focus
  | focusWithin | checked | required | optional | valid | invalid => true
  | _ => false

/-- A part behind the basic selector is written behind it. -/
theorem render_basicOf_append (v : Vicinity) (part : Part) :
    Compound.render (basicOf v ++ [part]) = renderSimple v.basic ++ part.render := by
  simp [Compound.render, basicOf, Compound.ofSimple, renderSimple, Function.comp_def, Part.render]

/-- A state is written behind the basic selector. -/
theorem render_inState (kind : CandidateKind) (state description : String) (v : Vicinity) :
    (inState kind state description v).selector.render =
      renderSimple v.basic ++ (":" ++ state) :=
  (render_ofCompound _).trans (render_basicOf_append v (.state state))

/-- A tag behind a combinator is written behind it. -/
theorem render_pair_tagged (c : Compound) (between : Combinator) (v : Vicinity) :
    (Selector.pair c between (tagged v)).render = c.render ++ (between.render ++ v.tag) := by
  simp [Selector.render, Selector.pair, Compound.render, tagged, Part.render, Simple.render]

/-- **The text of a state** is the basic selector and a colon with a name. -/
theorem exists_render_of_isState (hq : Proposes v q) (hk : q.kind.isState = true) :
    ∃ name : String, name.toList ≠ [] ∧ (∀ c ∈ name.toList, isNameChar c = true) ∧
      q.selector.render = renderSimple v.basic ++ (":" ++ name) := by
  cases hq with
  | hover | visited | firstChild | lastChild | onlyChild | empty | disabled | enabled | focus
  | checked | required | optional | valid | invalid =>
    exact ⟨_, by decide, List.all_eq_true.1 (by decide), render_inState ..⟩
  | _ => cases hk

/-- **What generated content adds** to the basic selector weighs nothing. -/
theorem specificity_of_isBasicOrContent (hq : Proposes v q) (hk : q.kind.isBasicOrContent = true) :
    specificity q.selector.render = specificity (renderSimple v.basic) := by
  cases hq with
  | basic => exact congrArg specificity (render_ofSimple v.basic)
  | before | after =>
    rw [specificity, render_ofCompound, render_basicOf_append, String.toList_append]
    exact weigh_append_pseudoElement (by decide) _
  | _ => cases hk

/-- **A state is one class heavier** than the basic selector. -/
theorem specificity_of_isState (h : v.element.HasNoColon) (hq : Proposes v q)
    (hk : q.kind.isState = true) :
    specificity q.selector.render =
      { specificity (renderSimple v.basic) with
        classes := Weight.addCapped (specificity (renderSimple v.basic)).classes 1 } := by
  obtain ⟨name, hne, hname, htext⟩ := exists_render_of_isState hq hk
  have hcolon : ':' ∉ withoutPseudoElements (renderSimple v.basic).toList :=
    notMem_replaceAll List.not_mem_nil (Vicinity.colon_notMem_basic h)
  rw [htext, specificity, String.toList_append, String.toList_append]
  exact weigh_append_pseudoClass (fun hlast => hcolon (List.mem_of_getLast? hlast)) hne hname

/-- A form control has no bracket in its tag. -/
theorem bracket_notMem_tag (h : v.element.isFormControl = true) : ']' ∉ v.tag.toList := by
  obtain ⟨tag, htag, hsame⟩ := List.any_eq_true.1 h
  have hlower : ∀ tag ∈ Element.formControlTags, ']' ∉ (lower tag).toList := by decide
  rw [show v.tag = lower tag from sameName_iff.1 hsame]
  exact hlower tag htag

/-- **What is proposed behind the weightless candidate has weight**: a pseudo-class that comes
before all else in the text, or behind a name where no bracket can be closed any more. -/
theorem one_le_classes_of_isLate (hv : v.element.HasNoColon)
    (hp : ∀ p, v.parent? = some p → p.element.HasNoColon) (hq : Proposes v q)
    (hk : q.kind.isLate = true) : 1 ≤ (specificity q.selector.render).classes := by
  by_cases hstate : q.kind.isState = true
  · rw [specificity_of_isState hv hq hstate]
    exact Nat.le_min.2 ⟨Nat.le_add_left _ _, by decide⟩
  · cases hq with
    | @isParent p =>
      have htext : (Selector.pair [.isAny p.basic] .descendant (tagged v)).render.toList =
          [] ++ ':' :: 'i' :: ("s(" ++ renderSimple p.basic ++ ") " ++ v.tag).toList := by
        rw [render_pair_tagged]
        simp [Compound.render, Part.render, Combinator.render]
      rw [specificity, htext]
      exact one_le_classes List.not_mem_nil (by decide) (.inl List.not_mem_nil)
    | @nthOfType k =>
      have htext : (Selector.ofCompound (tagged v ++ [.nthOfType k])).render.toList =
          v.tag.toList ++ ':' :: 'n' :: ("th-of-type(" ++ toString k ++ ")").toList := by
        simp [Selector.render, Selector.ofCompound, Compound.render, Part.render, tagged,
          Simple.render]
      have hdigits : ']' ∉ (toString k).toList := fun hm =>
        absurd (isDigit_of_mem_toString hm) (by decide)
      rw [specificity, htext]
      exact one_le_classes (colon_notMem_lower hv.tagName) (by decide)
        (.inr (by simpa using hdigits))
    | @focusWithin p hform hparent =>
      have htext : (Selector.pair (basicOf p ++ [.state "focus-within"]) .descendant
          (tagged v)).render.toList =
            (renderSimple p.basic).toList ++ ':' :: 'f' :: ("ocus-within " ++ v.tag).toList := by
        rw [render_pair_tagged, render_basicOf_append]
        simp [Part.render, Combinator.render]
      rw [specificity, htext]
      exact one_le_classes (Vicinity.colon_notMem_basic (hp p hparent)) (by decide)
        (.inr (by simp [bracket_notMem_tag hform]))
    | _ => first | exact absurd rfl hstate | cases hk

/-! ### The candidates of a vicinity -/

/-- Behind the weightless kind, the order of emission has late kinds only. -/
theorem pairwise_emissionOrder :
    emissionOrder.Pairwise fun k k' => k = .weightless → k'.isLate = true := by
  decide

namespace Vicinity

variable {c : Candidate}

/-- The basic selector, before, and after: this is the order of emission. -/
theorem exists_filter_isBasicOrContent (v : Vicinity) :
    ∃ contents, v.candidates.filter (·.kind.isBasicOrContent) = v.basicCandidate :: contents ∧
      (contents.map Candidate.kind).Sublist [.before, .after] := by
  obtain ⟨cs, hcs⟩ := v.candidates_eq_cons
  refine ⟨cs.filter (·.kind.isBasicOrContent), ?_, ?_⟩
  · rw [hcs]
    exact List.filter_cons_of_pos rfl
  · have hkinds : (v.candidates.map Candidate.kind).Sublist emissionOrder :=
      v.map_kind_candidates ▸ kinds_sublist_emissionOrder v
    have hplain := hkinds.filter CandidateKind.isBasicOrContent
    rw [hcs, List.map_cons, List.filter_cons_of_pos rfl, List.filter_map] at hplain
    exact hplain.of_cons_cons

/-- **The weightless candidate** has only late ones behind it. -/
theorem exists_split_weightless (v : Vicinity) :
    ∃ front c back, v.candidates = front ++ c :: back ∧ c.kind = .weightless ∧
      ∀ c' ∈ back, c'.kind.isLate = true := by
  obtain ⟨c, hc, hk⟩ : ∃ c ∈ v.candidates, c.kind = .weightless :=
    ⟨_, mem_candidates_iff.2 ⟨_, .weightless, rfl⟩, rfl⟩
  obtain ⟨front, back, hsplit⟩ := List.append_of_mem hc
  have hpair := pairwise_emissionOrder.sublist
    (v.map_kind_candidates ▸ kinds_sublist_emissionOrder v)
  rw [hsplit, List.pairwise_map, List.pairwise_append, List.pairwise_cons] at hpair
  exact ⟨front, c, back, hsplit, hk, fun c' hc' => hpair.2.1.1 c' hc' hk⟩

/-- The candidates of some kinds, the weightless one not among them, weigh what the texts of
their proposals weigh. -/
theorem exists_proposes {kinds : CandidateKind → Bool} (hc : c ∈ v.candidates)
    (hk : kinds c.kind = true) (hnot : kinds .weightless = false) :
    ∃ q, Proposes v q ∧ kinds q.kind = true ∧ c.weight = specificity q.selector.render := by
  obtain ⟨q, hq, rfl⟩ := mem_candidates_iff.1 hc
  refine ⟨q, hq, hk, q.weight_eq.trans (if_neg fun h => ?_)⟩
  rw [show (q.toCandidate v).kind = .weightless from h, hnot] at hk
  cases hk

/-- The basic candidate weighs what its text weighs. -/
theorem weight_basicCandidate (v : Vicinity) :
    v.basicCandidate.weight = specificity (renderSimple v.basic) :=
  specificity_of_isBasicOrContent .basic rfl

/-- The basic selector and the generated content have one weight. -/
theorem weight_of_isBasicOrContent (hc : c ∈ v.candidates) (hk : c.kind.isBasicOrContent = true) :
    c.weight = v.basicCandidate.weight := by
  obtain ⟨q, hq, hkind, hweight⟩ := exists_proposes hc hk rfl
  rw [hweight, specificity_of_isBasicOrContent hq hkind, weight_basicCandidate]

/-- The states are one class heavier. -/
theorem weight_of_isState (h : v.element.HasNoColon) (hc : c ∈ v.candidates)
    (hk : c.kind.isState = true) :
    c.weight = { v.basicCandidate.weight with
      classes := Weight.addCapped v.basicCandidate.weight.classes 1 } := by
  obtain ⟨q, hq, hkind, hweight⟩ := exists_proposes hc hk rfl
  rw [hweight, specificity_of_isState h hq hkind, weight_basicCandidate]

/-- The late candidates have weight. -/
theorem weight_ne_zero_of_isLate (h : v.element.HasNoColon)
    (hp : ∀ p, v.parent? = some p → p.element.HasNoColon) (hc : c ∈ v.candidates)
    (hk : c.kind.isLate = true) : c.weight ≠ .zero := by
  obtain ⟨q, hq, hkind, hweight⟩ := exists_proposes hc hk rfl
  have hclasses := one_le_classes_of_isLate h hp hq hkind
  rw [← hweight] at hclasses
  intro hzero
  rw [hzero] at hclasses
  exact absurd hclasses (by decide)

variable {ranked : List Candidate}

/-- **The weightless candidate is ranked last.** Nothing weighs less, and of what weighs as
little, nothing is proposed behind it. -/
theorem exists_concat_weightless (h : v.element.HasNoColon)
    (hp : ∀ p, v.parent? = some p → p.element.HasNoColon)
    (hranked : IsRanking Candidate.weight v.candidates ranked) :
    ∃ front c, ranked = front ++ [c] ∧ c.kind = .weightless := by
  obtain ⟨front, c, back, hsplit, hk, hback⟩ := v.exists_split_weightless
  have hmem : c ∈ v.candidates := hsplit ▸ List.mem_append_right _ List.mem_cons_self
  have hzero : c.weight = .zero := (weight_of_mem_candidates hmem).trans (if_pos hk)
  have hnone : back.filter (·.weight = .zero) = [] := by
    refine List.filter_eq_nil_iff.2 fun c' hc' => ?_
    have hmem : c' ∈ v.candidates :=
      hsplit ▸ List.mem_append_right _ (List.mem_cons_of_mem c hc')
    simpa using weight_ne_zero_of_isLate h hp hmem (hback c' hc')
  have hlast : v.candidates.filter (·.weight = .zero) = front.filter (·.weight = .zero) ++ [c] := by
    rw [hsplit, List.filter_append, List.filter_cons_of_pos (by simpa using hzero), hnone]
  refine ⟨ranked.filter (·.weight ≠ .zero) ++ front.filter (·.weight = .zero), c, ?_, hk⟩
  rw [List.append_assoc, ← hlast]
  exact hranked.eq_append_of_le fun c _ => Weight.zero_le c.weight

/-- **The states are ranked before the basic selector**, and it before the generated content. -/
theorem exists_filter_ranked (h : v.element.HasNoColon)
    (hlimit : v.basicCandidate.weight.classes < Weight.limit)
    (hranked : IsRanking Candidate.weight v.candidates ranked) :
    ∃ contents, (contents.map Candidate.kind).Sublist [.before, .after] ∧
      (∀ c ∈ contents, c.weight = v.basicCandidate.weight) ∧
      ranked.filter (fun c => c.kind.isState || c.kind.isBasicOrContent) =
        v.candidates.filter (·.kind.isState) ++ v.basicCandidate :: contents := by
  obtain ⟨contents, hcontents, hkinds⟩ := v.exists_filter_isBasicOrContent
  refine ⟨contents, hkinds, fun c hc => ?_, ?_⟩
  · have hmem := List.mem_filter.1 (hcontents ▸ List.mem_cons_of_mem _ hc)
    exact weight_of_isBasicOrContent hmem.1 hmem.2
  · rw [← hcontents]
    exact hranked.filter_or (Weight.lt_add_class hlimit) (fun c => weight_of_isState h)
      fun c => weight_of_isBasicOrContent

end Vicinity

/-! ### The ranked list -/

/-- **The order of candidates**, given them as they were emitted: the weightless one is last, and
picked out of the list, the states come first, as they were emitted, then the basic selector, then
the generated content before and after the element, if there is any, with the same weight. -/
structure Precedence (emitted ranked : List Candidate) : Prop where
  weightless_last : ∃ front c, ranked = front ++ [c] ∧ c.kind = .weightless
  states_first : ∃ basic contents, basic.kind = .basic ∧
    (contents.map Candidate.kind).Sublist [.before, .after] ∧
    (∀ c ∈ contents, c.weight = basic.weight) ∧
    ranked.filter (fun c => c.kind.isState || c.kind.isBasicOrContent) =
      emitted.filter (·.kind.isState) ++ basic :: contents

namespace Inspector

variable {d : Document} {n : NodeId}

/-- **The order of the candidates of an element**, where no name has a colon and the basic
selector does not have as many classes as a weight can count. The names need not be such that
their texts are selectors. -/
theorem candidates_precedence (hd : d.HasNoColons) (boundary : Option NodeId)
    (hn : d.isElement n)
    (hlimit : ∀ c ∈ (repeating d boundary).candidates n, c.kind = .basic →
      c.weight.classes ≠ Weight.limit) :
    Precedence ((repeating d boundary).emitted n) ((repeating d boundary).candidates n) := by
  obtain ⟨v, hv⟩ : ∃ v, Vicinity.at? d boundary n = some v := exists_at?_of_isElement hn
  have hemitted : (repeating d boundary).emitted n = v.candidates := emitted_of_at? hv
  rw [candidates_repeating, hemitted] at hlimit
  rw [candidates_repeating, hemitted]
  have hranked := isRanking_rankBy Candidate.weight v.candidates
  obtain ⟨rfl, rfl, rfl, hgenuine⟩ := Vicinity.at?_eq_some_iff.1 hv
  have helement : v.element.HasNoColon := hd v.node v.element hgenuine
  have hparent : ∀ p, v.parent? = some p → p.element.HasNoColon := fun p hp =>
    hd p.node p.element (Vicinity.parent?_eq_some_iff.1 hp).1.element?
  have hbasic : v.basicCandidate ∈ v.candidates := by
    obtain ⟨cs, hcs⟩ := v.candidates_eq_cons
    exact hcs ▸ List.mem_cons_self
  have hlt : v.basicCandidate.weight.classes < Weight.limit :=
    Nat.lt_of_le_of_ne (v.weight_basicCandidate ▸ (isBounded_weigh _).classes)
      (hlimit _ (hranked.perm.mem_iff.2 hbasic) rfl)
  obtain ⟨contents, hkinds, hweights, hfilter⟩ :=
    Vicinity.exists_filter_ranked helement hlt hranked
  exact ⟨Vicinity.exists_concat_weightless helement hparent hranked,
    v.basicCandidate, contents, rfl, hkinds, hweights, hfilter⟩

/-- The order of the candidates for the element in the page with brackets. -/
theorem candidates_precedence_bracketPage :
    Document.bracketPage.HasNoColons ∧ Document.bracketPage.isElement 2 ∧
      Precedence ((repeating Document.bracketPage none).emitted 2)
        ((repeating Document.bracketPage none).candidates 2) := by
  have hnames : ∀ n < 3, ∀ e ∈ Document.bracketPage.element? n,
      ':' ∉ e.tagName.toList ∧ (∀ id ∈ e.id?, ':' ∉ id.toList) ∧
        ∀ name ∈ e.classes, ':' ∉ name.toList := by
    decide +kernel
  have hplain : Document.bracketPage.HasNoColons := by
    intro n e he
    have hn : n < 3 := (show Vicinity.Genuine ⟨Document.bracketPage, none, n, e⟩ from he).lt_size
    obtain ⟨htag, hid, hclasses⟩ := hnames n hn e he
    exact ⟨htag, hid, hclasses⟩
  have hlimit : ∀ c ∈ (repeating Document.bracketPage none).candidates 2, c.kind = .basic →
      c.weight.classes ≠ Weight.limit := by
    intro c hc hk
    obtain ⟨v, hv, hmem⟩ := exists_of_mem_candidates hc
    have hbasic : specificity ".c(d.e" = ⟨0, 0, 2, 1⟩ := by decide +kernel
    have htext : renderSimple v.basic = ".c(d.e" := by
      obtain rfl := Option.some.inj hv
      decide +kernel
    rw [Vicinity.weight_of_isBasicOrContent hmem (by rw [hk]; rfl), v.weight_basicCandidate, htext,
      hbasic]
    decide
  have helement : Document.bracketPage.isElement 2 := by decide
  exact ⟨hplain, helement, candidates_precedence hplain none helement hlimit⟩

end Inspector

end Inspection

end SelectorFinder
