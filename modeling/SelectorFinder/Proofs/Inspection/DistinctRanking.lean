import Mathlib.Data.List.FinRange
import SelectorFinder.Inspection.Candidate
import SelectorFinder.Proofs.Inspection.RankingLaws

/-!
# Ranking and Repeated Texts

How ranking a list and removing its repeated texts act together. Both leave alone what they
have put right. Removing after ranking keeps the heaviest thing of each text. The two may be
exchanged where things with the same text weigh the same; otherwise they may not, since the
first thing of a text need not be the heaviest.

## Main results

* `isRanking_iff`: there is one way to rank a list.
* `distinctBy_eq_map_get`: what is kept of a list, told by the places at which it stood.
* `filter_distinctBy`: whether a thing is kept does not depend on those with other texts.
* `rankBy_distinctBy`, `distinctBy_pair`: where ranking and removing may be exchanged, and where
  not.
* `rankBy_distinctBy_laws`: all laws, for lists of candidates.
-/

namespace SelectorFinder.Inspection

open SelectorFinder.Selector

variable {α : Type} {weight : α → Weight} {text : α → String} {xs : List α}

/-! ### Ranked lists -/

/-- A list in order is its own ranking. -/
theorem isRanking_self (h : xs.Pairwise fun x y => weight y ≤ weight x) :
    IsRanking weight xs xs :=
  ⟨.refl xs, h, fun _ => rfl⟩

/-- **The ranked list** is the only one with the same things in order, stably. -/
theorem isRanking_iff {ranked : List α} :
    IsRanking weight xs ranked ↔ ranked = rankBy weight xs := by
  constructor
  · exact fun h => h.unique (isRanking_rankBy weight xs)
  · rintro rfl
    exact isRanking_rankBy weight xs

/-- Ranking leaves a list in order as it is. -/
theorem rankBy_of_pairwise (h : xs.Pairwise fun x y => weight y ≤ weight x) :
    rankBy weight xs = xs :=
  (isRanking_iff.1 (isRanking_self h)).symm

/-- **The first is the heaviest** of all things in a ranked list that have some property. -/
theorem weight_le_of_find? (h : xs.Pairwise fun x y => weight y ≤ weight x) {p : α → Bool}
    {x y : α} (hx : xs.find? p = some x) (hy : y ∈ xs) (hp : p y = true) :
    weight y ≤ weight x := by
  obtain ⟨-, before, after, rfl, hbefore⟩ := List.find?_eq_some_iff_append.1 hx
  rcases List.mem_append.1 hy with hy | hy
  · simpa [hp] using hbefore y hy
  · rcases List.mem_cons.1 hy with rfl | hy
    · exact le_rfl
    · exact List.rel_of_pairwise_cons (List.pairwise_append.1 h).2.1 hy

/-! ### Things with other texts -/

/-- What is kept of the things with a property that goes with the text: whether the others are
there makes no difference, neither behind them nor among the texts that came before. -/
theorem filter_distinctFrom {p : α → Bool} {seen seen' : List String}
    (hp : ∀ x ∈ xs, ∀ y ∈ xs, text x = text y → p x = p y)
    (hseen : ∀ x ∈ xs, p x = true → (text x ∈ seen ↔ text x ∈ seen')) :
    (distinctFrom text seen xs).filter p = distinctFrom text seen' (xs.filter p) := by
  induction xs generalizing seen seen' with
  | nil => rfl
  | cons x xs ih =>
    have hrest : ∀ y ∈ xs, ∀ z ∈ xs, text y = text z → p y = p z := fun y hy z hz =>
      hp y (List.mem_cons_of_mem x hy) z (List.mem_cons_of_mem x hz)
    have hbehind : ∀ y ∈ xs, p y = true → (text y ∈ seen ↔ text y ∈ seen') := fun y hy =>
      hseen y (List.mem_cons_of_mem x hy)
    cases hx : p x with
    | true =>
      have hmem : text x ∈ seen ↔ text x ∈ seen' := hseen x List.mem_cons_self hx
      rw [List.filter_cons_of_pos hx, distinctFrom, distinctFrom]
      simp only [List.contains_iff_mem, ← hmem]
      split
      next => exact ih hrest hbehind
      next =>
        rw [List.filter_cons_of_pos hx, ih hrest fun y hy hpy => ?_]
        rw [List.mem_cons, List.mem_cons, hbehind y hy hpy]
    | false =>
      have hnot : ¬ p x = true := by simp [hx]
      rw [List.filter_cons_of_neg hnot, distinctFrom]
      split
      next => exact ih hrest hbehind
      next =>
        -- only the left side notes the text of `x`, but nothing with the property has it
        rw [List.filter_cons_of_neg hnot]
        refine ih hrest fun y hy hpy => ?_
        have hne : text y ≠ text x := fun he => by
          rw [hp y (List.mem_cons_of_mem x hy) x List.mem_cons_self he, hx] at hpy
          cases hpy
        rw [List.mem_cons, or_iff_right hne, hbehind y hy hpy]

/-- **Whether a thing is kept does not depend on those with other texts.** -/
theorem filter_distinctBy {p : α → Bool}
    (hp : ∀ x ∈ xs, ∀ y ∈ xs, text x = text y → p x = p y) :
    (distinctBy text xs).filter p = distinctBy text (xs.filter p) :=
  filter_distinctFrom hp fun _ _ _ => Iff.rfl

/-- Of the texts that came before only those matter that come again. -/
theorem distinctFrom_congr {seen seen' : List String}
    (h : ∀ x ∈ xs, text x ∈ seen ↔ text x ∈ seen') :
    distinctFrom text seen xs = distinctFrom text seen' xs := by
  have hall := filter_distinctFrom (p := fun _ => true) (fun _ _ _ _ _ => rfl)
    fun x hx _ => h x hx
  simpa using hall

/-! ### First places -/

/-- The places of a list at which a text comes for the first time. -/
def firstPlaces (text : α → String) (xs : List α) : List (Fin xs.length) :=
  (List.finRange xs.length).filter fun i => ∀ j < i, text xs[j] ≠ text xs[i]

/-- A text comes first behind the head of a list, if it is not that of the head. -/
theorem comesFirst_succ_iff {x : α} {seen : List String} (i : Fin xs.length) :
    (text (x :: xs)[i.succ] ∉ seen ∧ ∀ j < i.succ, text (x :: xs)[j] ≠ text (x :: xs)[i.succ]) ↔
      text xs[i] ∉ text x :: seen ∧ ∀ j < i, text xs[j] ≠ text xs[i] := by
  have hplaces : (∀ j < i.succ, text (x :: xs)[j] ≠ text (x :: xs)[i.succ]) ↔
      text x ≠ text xs[i] ∧ ∀ j < i, text xs[j] ≠ text xs[i] := by
    simp [Fin.forall_fin_succ]
  rw [hplaces, List.mem_cons, not_or, ne_comm]
  exact and_left_comm.trans and_assoc.symm

/-- What is kept behind given texts stood at the first places of other texts. -/
theorem distinctFrom_eq_map_get (text : α → String) (seen : List String) (xs : List α) :
    distinctFrom text seen xs =
      ((List.finRange xs.length).filter fun i =>
        text xs[i] ∉ seen ∧ ∀ j < i, text xs[j] ≠ text xs[i]).map xs.get := by
  induction xs generalizing seen with
  | nil => rfl
  | cons x xs ih =>
    have hplaces : List.finRange (x :: xs).length = 0 :: (List.finRange xs.length).map Fin.succ :=
      List.finRange_succ
    have hrest : (((List.finRange xs.length).map Fin.succ).filter
        fun i : Fin (x :: xs).length =>
          text (x :: xs)[i] ∉ seen ∧ ∀ j < i, text (x :: xs)[j] ≠ text (x :: xs)[i]).map
        (x :: xs).get = distinctFrom text (text x :: seen) xs := by
      rw [ih, List.filter_map, List.map_map]
      exact congrArg (List.map xs.get)
        (List.filter_congr fun i _ => decide_eq_decide.2 (comesFirst_succ_iff i))
    rw [distinctFrom, hplaces, List.filter_cons]
    by_cases hx : text x ∈ seen
    · rw [if_pos (by simpa using hx), if_neg (by simp [hx]), hrest]
      refine distinctFrom_congr fun y _ => ?_
      rw [List.mem_cons]
      exact ⟨.inr, fun h => h.elim (fun he => he ▸ hx) id⟩
    · rw [if_neg (by simpa using hx), if_pos (by simp [hx]), List.map_cons, hrest]
      rfl

/-- **What is kept** of a list stood at the places where a text comes for the first time. -/
theorem distinctBy_eq_map_get (text : α → String) (xs : List α) :
    distinctBy text xs = (firstPlaces text xs).map xs.get := by
  rw [distinctBy, distinctFrom_eq_map_get, firstPlaces]
  simp only [List.not_mem_nil, not_false_eq_true, true_and]

/-! ### Lists without repeated texts -/

/-- A list in which no text comes twice, or came before, is kept whole. -/
theorem distinctFrom_of_nodup {seen : List String} (h : (xs.map text).Nodup)
    (hseen : ∀ x ∈ xs, text x ∉ seen) : distinctFrom text seen xs = xs := by
  induction xs generalizing seen with
  | nil => rfl
  | cons x xs ih =>
    obtain ⟨hx, hxs⟩ := List.nodup_cons.1 h
    have hrest : ∀ y ∈ xs, text y ∉ text x :: seen := by
      intro y hy hmem
      rcases List.mem_cons.1 hmem with he | hmem
      · exact hx (he ▸ List.mem_map_of_mem hy)
      · exact hseen y (List.mem_cons_of_mem x hy) hmem
    rw [distinctFrom, if_neg (by simpa using hseen x List.mem_cons_self), ih hxs hrest]

/-- Nothing is left to be removed of what was kept. -/
theorem distinctBy_distinctBy (text : α → String) (xs : List α) :
    distinctBy text (distinctBy text xs) = distinctBy text xs :=
  distinctFrom_of_nodup (keepsFirst_distinctBy text xs).nodup fun _ _ => List.not_mem_nil

/-- What is kept is the first of its text. -/
theorem KeepsFirst.find?_of_mem {kept : List α} (h : KeepsFirst text xs kept) {x : α}
    (hx : x ∈ kept) : xs.find? (text · = text x) = some x := by
  have hsome : (kept.find? (text · = text x)).isSome :=
    List.find?_isSome.2 ⟨x, hx, by simp⟩
  obtain ⟨y, hy⟩ := Option.isSome_iff_exists.1 hsome
  have htext : text y = text x := by simpa using List.find?_some hy
  obtain rfl : y = x := List.inj_on_of_nodup_map h.nodup (List.mem_of_find?_eq_some hy) hx htext
  rwa [← h.find?_eq]

/-! ### Ranking and removing -/

/-- What is kept of a ranked list is in order. -/
theorem pairwise_distinctBy_rankBy (weight : α → Weight) (text : α → String) (xs : List α) :
    (distinctBy text (rankBy weight xs)).Pairwise fun x y => weight y ≤ weight x :=
  (isRanking_rankBy weight xs).nonincreasing.sublist (distinctBy_sublist text _)

/-- **The heaviest of each text** is kept of a ranked list. -/
theorem weight_le_of_mem_distinctBy {x y : α} (hx : x ∈ distinctBy text (rankBy weight xs))
    (hy : y ∈ xs) (h : text y = text x) : weight y ≤ weight x := by
  have hrank := isRanking_rankBy weight xs
  have hfirst := (keepsFirst_distinctBy text (rankBy weight xs)).find?_of_mem hx
  exact weight_le_of_find? hrank.nonincreasing hfirst (hrank.perm.mem_iff.2 hy) (by simpa using h)

/-- **Where the text decides on the weight**, repeated texts may be removed before ranking as
well as after: both lists are in order, and they have the same things of each weight. -/
theorem rankBy_distinctBy (h : ∀ x ∈ xs, ∀ y ∈ xs, text x = text y → weight x = weight y) :
    rankBy weight (distinctBy text xs) = distinctBy text (rankBy weight xs) := by
  have hrank := isRanking_rankBy weight xs
  have hkept := isRanking_rankBy weight (distinctBy text xs)
  refine IsRanking.eq_of_filter_eq hkept.nonincreasing (pairwise_distinctBy_rankBy weight text xs)
    fun w => ?_
  have hw : ∀ x ∈ xs, ∀ y ∈ xs, text x = text y →
      decide (weight x = w) = decide (weight y = w) := fun x hx y hy hxy => by
    rw [h x hx y hy hxy]
  have hranked : ∀ x ∈ rankBy weight xs, ∀ y ∈ rankBy weight xs, text x = text y →
      decide (weight x = w) = decide (weight y = w) := fun x hx y hy =>
    hw x (hrank.perm.mem_iff.1 hx) y (hrank.perm.mem_iff.1 hy)
  calc (rankBy weight (distinctBy text xs)).filter (weight · = w)
      = (distinctBy text xs).filter (weight · = w) := hkept.stable w
    _ = distinctBy text (xs.filter (weight · = w)) := filter_distinctBy hw
    _ = distinctBy text ((rankBy weight xs).filter (weight · = w)) := by rw [hrank.stable w]
    _ = (distinctBy text (rankBy weight xs)).filter (weight · = w) :=
        (filter_distinctBy hranked).symm

/-- Of two things the heavier one is ranked first. -/
theorem rankBy_pair {x y : α} (h : weight x < weight y) : rankBy weight [x, y] = [y, x] := by
  have htwo : ∀ z ∈ [x, y], weight z = weight y ∨ weight z = weight x := by simp
  have hsplit := (isRanking_rankBy weight [x, y]).eq_append_of_two h htwo
  simpa [h.ne, h.ne'] using hsplit

/-- **Where the text does not decide on the weight**, it makes a difference which is done first:
of a light thing and a heavy one behind it with the same text, either one may be kept. -/
theorem distinctBy_pair {x y : α} (htext : text x = text y) (hweight : weight x < weight y) :
    rankBy weight (distinctBy text [x, y]) = [x] ∧
      distinctBy text (rankBy weight [x, y]) = [y] := by
  have hfirst : ∀ {a b : α}, text a = text b → distinctBy text [a, b] = [a] := fun h => by
    simp [distinctBy, distinctFrom, h]
  rw [rankBy_pair hweight, hfirst htext, hfirst htext.symm]
  exact ⟨rankBy_of_pairwise (List.pairwise_singleton _ x), rfl⟩

/-- **The laws of ranking and of removing repeated texts**, for any list of candidates. The
ranked list is the only one that has the same candidates with weights that never rise and equal
weights in their order; what is kept are the candidates at the places where a text comes for
the first time. Doing either twice is doing it once, and what is kept of a ranked list is
ranked; it has each text once, with the largest weight that comes with it. Where candidates
with the same text have the same weight, it does not matter which is done first. -/
theorem rankBy_distinctBy_laws (cs : List Candidate) :
    let rank := rankBy Candidate.weight
    let distinct := distinctBy Candidate.selector
    (∀ ranked, IsRanking Candidate.weight cs ranked ↔ ranked = rank cs) ∧
    KeepsFirst Candidate.selector cs (distinct cs) ∧
    distinct cs = (firstPlaces Candidate.selector cs).map cs.get ∧
    rank (rank cs) = rank cs ∧
    distinct (distinct cs) = distinct cs ∧
    rank (distinct (rank cs)) = distinct (rank cs) ∧
    (∀ c ∈ cs, ∃ c' ∈ distinct (rank cs), c'.selector = c.selector) ∧
    (∀ c ∈ distinct (rank cs), c ∈ cs ∧
      ∀ c' ∈ cs, c'.selector = c.selector → c'.weight ≤ c.weight) ∧
    ((∀ c ∈ cs, ∀ c' ∈ cs, c.selector = c'.selector → c.weight = c'.weight) →
      rank (distinct cs) = distinct (rank cs)) := by
  intro rank distinct
  have hrank : IsRanking Candidate.weight cs (rank cs) := isRanking_rankBy _ cs
  have hkept : KeepsFirst Candidate.selector (rank cs) (distinct (rank cs)) :=
    keepsFirst_distinctBy _ (rank cs)
  refine ⟨fun _ => isRanking_iff, keepsFirst_distinctBy _ cs, distinctBy_eq_map_get _ cs,
    rankBy_of_pairwise hrank.nonincreasing, distinctBy_distinctBy _ cs,
    rankBy_of_pairwise (pairwise_distinctBy_rankBy _ _ cs), fun c hc => ?texts,
    fun c hc => ⟨?candidate, fun c' hc' => weight_le_of_mem_distinctBy hc hc'⟩,
    rankBy_distinctBy⟩
  case texts => exact hkept.exists_mem (hrank.perm.mem_iff.2 hc)
  case candidate => exact hrank.perm.mem_iff.1 (hkept.sublist.subset hc)

/-- Candidates of a list item of which two texts come twice. -/
def itemCandidates : List Candidate :=
  [⟨.basic, "li", "Simple selector", ⟨0, 0, 0, 1⟩, none⟩,
   ⟨.hover, "li:hover", "State while hovered", ⟨0, 0, 1, 1⟩, none⟩,
   ⟨.fullPath, "li", "Full path", ⟨0, 0, 0, 1⟩, none⟩,
   ⟨.firstChild, "li:first-child", "First child", ⟨0, 0, 1, 1⟩, none⟩,
   ⟨.focus, "li:hover", "State while hovered", ⟨0, 0, 1, 1⟩, none⟩]

/-- Their repeated texts may be removed before ranking as well as after. -/
theorem rankBy_distinctBy_laws_itemCandidates :
    (∀ c ∈ itemCandidates, ∀ c' ∈ itemCandidates,
        c.selector = c'.selector → c.weight = c'.weight) ∧
      rankBy Candidate.weight (distinctBy Candidate.selector itemCandidates) =
        distinctBy Candidate.selector (rankBy Candidate.weight itemCandidates) ∧
      (distinctBy Candidate.selector (rankBy Candidate.weight itemCandidates)).map
        Candidate.kind = [.hover, .firstChild, .basic] := by
  have htexts : ∀ c ∈ itemCandidates, ∀ c' ∈ itemCandidates,
      c.selector = c'.selector → c.weight = c'.weight := by decide
  obtain ⟨-, -, -, -, -, -, -, -, hexchange⟩ := rankBy_distinctBy_laws itemCandidates
  have htwo : ∀ c ∈ itemCandidates,
      c.weight = ⟨0, 0, 1, 1⟩ ∨ c.weight = ⟨0, 0, 0, 1⟩ := by decide
  have hranked := (isRanking_rankBy _ itemCandidates).eq_append_of_two (by decide) htwo
  refine ⟨htexts, hexchange htexts, ?_⟩
  rw [hranked]
  decide

end SelectorFinder.Inspection
