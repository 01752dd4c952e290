import SelectorFinder.Inspection.Inspector
import SelectorFinder.Proofs.Inspection.Neighbourhood
import SelectorFinder.Proofs.Inspection.Proposals
import SelectorFinder.Proofs.Inspection.RankingLaws

/-!
# The List of Candidates

What holds of the list that an inspector hands out for a node, with repeated texts and
without: it is what the strategies propose, in order; each weight is that of the text, the
`:where()` candidate apart; and the basic selector stays in it whatever else has its text.

## Main results

* `mem_candidates_iff`: the candidates of a node, before and after ranking.
* `render_whereAny_ne`: no basic selector reads like the `:where()` around it.
* `candidates_contract`: the list as a whole.
-/

namespace SelectorFinder.Inspection

open SelectorFinder.Dom SelectorFinder.Selector

/-! ### Written forms -/

/-- A single compound is written as it is. -/
theorem render_ofCompound (c : Compound) : (Selector.ofCompound c).render = c.render := by
  simp [Selector.render, Selector.ofCompound]

/-- The basic selector as a compound is written as the simple selectors that it holds. -/
theorem render_ofSimple (ss : List Simple) :
    (Selector.ofCompound (Compound.ofSimple ss)).render = renderSimple ss := by
  simp [Selector.render, Selector.ofCompound, Compound.render, Compound.ofSimple, renderSimple,
    Function.comp_def, Part.render]

/-- Conditions without weight are written as the argument of `:where()`. -/
theorem render_whereAny (ss : List Simple) :
    (Selector.ofCompound [.whereAny ss]).render = ":where(" ++ renderSimple ss ++ ")" := by
  simp [Selector.render, Selector.ofCompound, Compound.render, Part.render]

/-- **No basic selector reads like the `:where()` around it**, whatever its names are. -/
theorem render_whereAny_ne (ss : List Simple) :
    (Selector.ofCompound [.whereAny ss]).render ≠
      (Selector.ofCompound (Compound.ofSimple ss)).render := by
  rw [render_whereAny, render_ofSimple]
  intro h
  have hlen := congrArg String.length h
  simp only [String.length_append] at hlen
  have hwhere : ":where(".length = 7 := by decide
  omega

/-! ### Weights of candidates -/

/-- A proposal weighs what its text weighs, unless it is the weightless one. -/
theorem Proposal.weight_eq (p : Proposal) :
    p.weight = if p.kind = .weightless then .zero else specificity p.selector.render := by
  rw [Proposal.weight]
  split
  next h => rw [if_pos h]
  next h => rw [if_neg h]

namespace Vicinity

variable {v : Vicinity} {c : Candidate}

/-- The candidates are the proposals, weighed and with the parent's summary. -/
theorem mem_candidates_iff :
    c ∈ v.candidates ↔ ∃ p, Strategy.Proposes v p ∧ p.toCandidate v = c := by
  simp [candidates, Strategy.mem_proposals_iff]

/-- **The weight is that of the text**, except for the weightless candidate. -/
theorem weight_of_mem_candidates (h : c ∈ v.candidates) :
    c.weight = if c.kind = .weightless then .zero else specificity c.selector := by
  obtain ⟨p, -, rfl⟩ := mem_candidates_iff.1 h
  exact p.weight_eq

/-- No candidate has the weight of an inline style. -/
theorem inline_of_mem_candidates (h : c ∈ v.candidates) : c.weight.inline = 0 := by
  rw [weight_of_mem_candidates h]
  split <;> rfl

/-- The kinds of the candidates are those of the proposals. -/
theorem map_kind_candidates (v : Vicinity) :
    v.candidates.map Candidate.kind = v.proposals.map Proposal.kind := by
  simp [candidates, Function.comp_def, Proposal.toCandidate]

/-- All candidates carry the summary of the one parent. -/
theorem parent_of_mem_candidates (h : c ∈ v.candidates) : c.parent = v.parentSummary? := by
  obtain ⟨p, -, rfl⟩ := mem_candidates_iff.1 h
  rfl

/-- **There is one weightless candidate.** -/
theorem length_filter_weightless (v : Vicinity) :
    (v.candidates.filter (·.kind = .weightless)).length = 1 := by
  have hnodup : (v.candidates.map Candidate.kind).Nodup :=
    v.map_kind_candidates ▸ Strategy.nodup_kinds v
  have hmem : .weightless ∈ v.candidates.map Candidate.kind := by
    rw [map_kind_candidates]
    exact List.mem_map_of_mem (Strategy.mem_proposals_iff.2 .weightless)
  have hcount := List.count_eq_one_of_mem hnodup hmem
  rw [List.count, List.countP_map, List.countP_eq_length_filter] at hcount
  simpa only [Function.comp_def, beq_eq_decide] using hcount

/-- The basic candidate. -/
def basicCandidate (v : Vicinity) : Candidate :=
  Proposal.toCandidate
    ⟨.basic, .ofCompound (Strategy.basicOf v), "Simple selector by tag, class or id"⟩ v

/-- The basic candidate comes first. -/
theorem candidates_eq_cons (v : Vicinity) : ∃ cs, v.candidates = v.basicCandidate :: cs :=
  ⟨_, rfl⟩

/-- **The text of the basic selector has its weight** wherever else it comes up. -/
theorem weight_eq_of_selector_eq (h : c ∈ v.candidates)
    (hs : c.selector = v.basicCandidate.selector) : c.weight = v.basicCandidate.weight := by
  have hbasic : v.basicCandidate.weight = specificity v.basicCandidate.selector := rfl
  rw [weight_of_mem_candidates h, hbasic, hs]
  refine if_neg fun hk => ?_
  obtain ⟨p, hp, rfl⟩ := mem_candidates_iff.1 h
  cases hp with
  | weightless => exact render_whereAny_ne v.basic hs
  | _ => cases hk

end Vicinity

/-! ### The ranked list -/

/-- A list of things that have a property by which they are also found: it is found first
among those that have the property. -/
theorem find?_eq_find?_filter {α : Type} {p q : α → Bool} {xs : List α}
    (h : ∀ x ∈ xs, p x = true → q x = true) : xs.find? p = (xs.filter q).find? p := by
  induction xs with
  | nil => rfl
  | cons x xs ih =>
    have ih := ih fun y hy => h y (List.mem_cons_of_mem x hy)
    by_cases hp : p x = true
    · simp [hp, h x List.mem_cons_self hp]
    · by_cases hq : q x = true <;> simp [hp, hq, ih]

namespace Inspector

/-- What the strategies propose for a node, weighed, in the order of the strategies; nothing
for a node that is no element. -/
def emitted (i : Inspector) (n : NodeId) : List Candidate :=
  match Vicinity.at? i.document i.boundary n with
  | some v => v.candidates
  | none => []

variable {d : Document} {boundary : Option NodeId} {n : NodeId}

/-- The inspector that lets texts repeat. -/
abbrev repeating (d : Document) (boundary : Option NodeId) : Inspector :=
  ⟨d, boundary, ⟨false⟩⟩

/-- The inspector that keeps the first of each text. -/
abbrev distinguishing (d : Document) (boundary : Option NodeId) : Inspector :=
  ⟨d, boundary, ⟨true⟩⟩

/-- The emitted candidates of an element are those of its vicinity. -/
theorem emitted_of_at? {i : Inspector} {v : Vicinity}
    (h : Vicinity.at? i.document i.boundary n = some v) : i.emitted n = v.candidates := by
  rw [emitted, h]

/-- Nothing is emitted for what is not an element. -/
theorem emitted_of_at?_eq_none {i : Inspector}
    (h : Vicinity.at? i.document i.boundary n = none) : i.emitted n = [] := by
  rw [emitted, h]

/-- Where texts may repeat, the list is what was emitted, ranked. -/
theorem candidates_repeating :
    (repeating d boundary).candidates n =
      rankBy Candidate.weight ((repeating d boundary).emitted n) := by
  rw [candidates, emitted]
  cases Vicinity.at? d boundary n with
  | none => simp [rankBy]
  | some v => simp

/-- Where they may not, it is the first of each text of that list. -/
theorem candidates_distinguishing :
    (distinguishing d boundary).candidates n =
      distinctBy Candidate.selector ((repeating d boundary).candidates n) := by
  rw [candidates, candidates]
  cases Vicinity.at? d boundary n with
  | none => rfl
  | some v => simp

/-- A candidate is handed out only for an element, and is a candidate of its vicinity. -/
theorem exists_of_mem_candidates {i : Inspector} {c : Candidate} (h : c ∈ i.candidates n) :
    ∃ v, Vicinity.at? i.document i.boundary n = some v ∧ c ∈ v.candidates := by
  rw [candidates] at h
  split at h
  next => simp at h
  next v hv =>
    refine ⟨v, hv, (perm_rankBy Candidate.weight v.candidates).mem_iff.1 ?_⟩
    dsimp only at h
    split at h
    · exact (distinctBy_sublist _ _).subset h
    · exact h

/-- The vicinity of an element is found. -/
theorem exists_at?_of_isElement (h : d.isElement n) :
    ∃ v, Vicinity.at? d boundary n = some v := by
  obtain ⟨e, he⟩ := Document.isElement_iff.1 h
  exact ⟨_, congrArg _ he⟩

/-- **The basic candidate is the first of its text** in the ranked list: what else has that
text has the same weight, and ranking leaves it behind. -/
theorem find?_basicCandidate {v : Vicinity} :
    (rankBy Candidate.weight v.candidates).find?
        (·.selector = v.basicCandidate.selector) = some v.basicCandidate := by
  have hrank := isRanking_rankBy Candidate.weight v.candidates
  obtain ⟨cs, hcs⟩ := v.candidates_eq_cons
  have hweight : ∀ c ∈ v.candidates, c.selector = v.basicCandidate.selector →
      c.weight = v.basicCandidate.weight := fun c => Vicinity.weight_eq_of_selector_eq
  calc (rankBy Candidate.weight v.candidates).find? (·.selector = v.basicCandidate.selector)
      = ((rankBy Candidate.weight v.candidates).filter
          (·.weight = v.basicCandidate.weight)).find?
            (·.selector = v.basicCandidate.selector) :=
        find?_eq_find?_filter fun c hc hs => by
          simpa using hweight c (hrank.perm.mem_iff.1 hc) (by simpa using hs)
    _ = (v.candidates.filter (·.weight = v.basicCandidate.weight)).find?
            (·.selector = v.basicCandidate.selector) := by
        rw [hrank.stable]
    _ = some v.basicCandidate := by
        simp [hcs]

/-- **The list of candidates.** What is handed out for a node with repeated texts is what the
strategies emit, ranked: weights never rise, the importance of the tiers neither, and equal
weights keep the order of emission. Each weight is the specificity of the text, except that
the one `:where()` candidate of an element weighs nothing; no weight has a part for `style`;
all summaries of the parent are the same. Without repeated texts it is the first of each text
of that list, no text is lost, and for an element the basic candidate is still there. -/
theorem candidates_contract (d : Document) (boundary : Option NodeId) (n : NodeId) :
    let emitted := (repeating d boundary).emitted n
    let listed := (repeating d boundary).candidates n
    let kept := (distinguishing d boundary).candidates n
    IsRanking Candidate.weight emitted listed ∧
    listed.Pairwise (fun a b => b.weight.tier.importance ≤ a.weight.tier.importance) ∧
    (∀ c ∈ listed, c.weight = if c.kind = .weightless then .zero else specificity c.selector) ∧
    (d.isElement n → (listed.filter (·.kind = .weightless)).length = 1) ∧
    (∀ c ∈ listed, c.weight.inline = 0) ∧
    (∀ a ∈ listed, ∀ b ∈ listed, a.parent = b.parent) ∧
    KeepsFirst Candidate.selector listed kept ∧
    (∀ c ∈ listed, ∃ c' ∈ kept, c'.selector = c.selector) ∧
    (d.isElement n → ∃ c ∈ kept, c.kind = .basic) := by
  intro emitted listed kept
  have hrank : IsRanking Candidate.weight emitted listed := by
    rw [show listed = _ from candidates_repeating]
    exact isRanking_rankBy _ _
  have hfirst : KeepsFirst Candidate.selector listed kept := by
    rw [show kept = _ from candidates_distinguishing]
    exact keepsFirst_distinctBy _ _
  refine ⟨hrank, hrank.nonincreasing.imp Weight.importance_mono, fun c hc => ?weight,
    fun hn => ?weightless, fun c hc => ?inline, fun a ha b hb => ?parent, hfirst,
    fun c hc => hfirst.exists_mem hc, fun hn => ?basic⟩
  case weight =>
    obtain ⟨v, -, hv⟩ := exists_of_mem_candidates hc
    exact Vicinity.weight_of_mem_candidates hv
  case weightless =>
    obtain ⟨v, hv⟩ := exists_at?_of_isElement hn
    rw [(hrank.perm.filter _).length_eq, show emitted = _ from emitted_of_at? hv]
    exact v.length_filter_weightless
  case inline =>
    obtain ⟨v, -, hv⟩ := exists_of_mem_candidates hc
    exact Vicinity.inline_of_mem_candidates hv
  case parent =>
    obtain ⟨v, hv, ha⟩ := exists_of_mem_candidates ha
    obtain ⟨w, hw, hb⟩ := exists_of_mem_candidates hb
    obtain rfl : v = w := Option.some.inj (hv.symm.trans hw)
    rw [Vicinity.parent_of_mem_candidates ha, Vicinity.parent_of_mem_candidates hb]
  case basic =>
    obtain ⟨v, hv⟩ := exists_at?_of_isElement hn
    have hlisted : listed = rankBy Candidate.weight v.candidates :=
      candidates_repeating.trans (congrArg _ (emitted_of_at? hv))
    exact ⟨v.basicCandidate, hfirst.mem_of_find? (hlisted ▸ find?_basicCandidate), rfl⟩

end Inspector

end SelectorFinder.Inspection
