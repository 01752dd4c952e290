import Mathlib.Data.List.Nodup
import SelectorFinder.Inspection.Ranking
import SelectorFinder.Proofs.Selector.WeightOrder

/-!
# Laws of Ranking

What ranking and the removal of repeated texts do to any list. `IsRanking` says of one list
that it is another one put in order, heaviest first, with equal weights left in their order;
`KeepsFirst` says that it is what remains of another one when only the first of each text is
kept.

## Main results

* `isRanking_rankBy`: ranking puts in order, stably.
* `IsRanking.eq_append_of_le`, `IsRanking.filter_or`: where the lightest things stand, and where
  things of two weights.
* `IsRanking.unique`, `filter_rankBy`, `map_rankBy`: there is one order, which does not depend on
  what else is in the list.
* `keepsFirst_distinctBy`: the removal of repeated texts keeps the first of each.
-/

namespace SelectorFinder.Inspection

open SelectorFinder.Selector

variable {α : Type}

/-! ### Ranking -/

/-- **`ranked` is `xs` in order**: nothing is lost or repeated, no weight is above one before
it, and those of any one weight stand as they stood. -/
structure IsRanking (weight : α → Weight) (xs ranked : List α) : Prop where
  perm : ranked.Perm xs
  nonincreasing : ranked.Pairwise fun x y => weight y ≤ weight x
  stable : ∀ w, ranked.filter (weight · = w) = xs.filter (weight · = w)

/-- The order by which things are ranked is transitive. -/
theorem isGE_compare_trans (weight : α → Weight) (x y z : α)
    (hxy : ((weight x).compare (weight y)).isGE) (hyz : ((weight y).compare (weight z)).isGE) :
    ((weight x).compare (weight z)).isGE := by
  rw [Weight.isGE_compare_iff] at *
  exact le_trans hyz hxy

/-- Of any two things one may stand before the other. -/
theorem isGE_compare_total (weight : α → Weight) (x y : α) :
    ((weight x).compare (weight y)).isGE || ((weight y).compare (weight x)).isGE := by
  rw [Bool.or_eq_true, Weight.isGE_compare_iff, Weight.isGE_compare_iff]
  exact le_total _ _

/-- **Ranking puts in order, stably.** -/
theorem isRanking_rankBy (weight : α → Weight) (xs : List α) :
    IsRanking weight xs (rankBy weight xs) where
  perm := perm_rankBy weight xs
  nonincreasing := by
    have h := List.pairwise_mergeSort (isGE_compare_trans weight) (isGE_compare_total weight) xs
    exact h.imp fun hxy => Weight.isGE_compare_iff.1 hxy
  stable w := by
    -- those of weight `w` are in order as they stand, so sorting leaves them as they stand
    have hpair : (xs.filter (weight · = w)).Pairwise
        fun x y => ((weight x).compare (weight y)).isGE :=
      List.pairwise_of_forall_mem_list fun x hx y hy => by
        have hx : weight x = w := by simpa using (List.mem_filter.1 hx).2
        have hy : weight y = w := by simpa using (List.mem_filter.1 hy).2
        rw [Weight.isGE_compare_iff, hx, hy]
    have hsub : (xs.filter (weight · = w)).Sublist (rankBy weight xs) :=
      List.sublist_mergeSort (isGE_compare_trans weight) (isGE_compare_total weight) hpair
        List.filter_sublist
    have hsub' := hsub.filter (weight · = w)
    rw [List.filter_filter] at hsub'
    simp only [Bool.and_self] at hsub'
    exact (hsub'.eq_of_length ((perm_rankBy weight xs).filter _).length_eq.symm).symm

namespace IsRanking

variable {weight : α → Weight} {xs ranked : List α} {w w' : Weight}

/-- What is picked out of a ranked list is ranked. -/
theorem filter (h : IsRanking weight xs ranked) (p : α → Bool) :
    IsRanking weight (xs.filter p) (ranked.filter p) where
  perm := h.perm.filter p
  nonincreasing := h.nonincreasing.filter p
  stable w := by
    rw [List.filter_comm, h.stable, List.filter_comm]

/-- **The lightest come last**, in the order in which they came. -/
theorem eq_append_of_le (h : IsRanking weight xs ranked) (hmin : ∀ x ∈ xs, w ≤ weight x) :
    ranked = ranked.filter (weight · ≠ w) ++ xs.filter (weight · = w) := by
  rw [← h.stable]
  replace hmin : ∀ x ∈ ranked, w ≤ weight x := fun x hx => hmin x (h.perm.mem_iff.1 hx)
  have hpair := h.nonincreasing
  clear h
  induction ranked with
  | nil => rfl
  | cons x ranked ih =>
    obtain ⟨hx, hpair⟩ := List.pairwise_cons.1 hpair
    have hrest : ∀ y ∈ ranked, w ≤ weight y := fun y hy => hmin y (List.mem_cons_of_mem x hy)
    by_cases hxw : weight x = w
    · -- what follows one of the lightest is not heavier, so it is as light
      have hlight : ∀ y ∈ x :: ranked, weight y = w := by
        rintro y (_ | ⟨_, hy⟩)
        · exact hxw
        · exact le_antisymm (hxw ▸ hx y hy) (hrest y hy)
      have hnone : (x :: ranked).filter (weight · ≠ w) = [] :=
        List.filter_eq_nil_iff.2 fun y hy => by simpa using hlight y hy
      rw [hnone, List.filter_eq_self.2 fun y hy => by simpa using hlight y hy, List.nil_append]
    · simpa [hxw] using ih hrest hpair

/-- **Things of two weights**: first the heavier ones, then the others, each of them in the order
in which they came. -/
theorem eq_append_of_two (h : IsRanking weight xs ranked) (hlt : w < w')
    (htwo : ∀ x ∈ xs, weight x = w' ∨ weight x = w) :
    ranked = xs.filter (weight · = w') ++ xs.filter (weight · = w) := by
  have hmin : ∀ x ∈ xs, w ≤ weight x := fun x hx =>
    (htwo x hx).elim (fun heq => heq ▸ hlt.le) fun heq => heq.ge
  have hheavy : ranked.filter (weight · ≠ w) = ranked.filter (weight · = w') := by
    refine List.filter_congr fun x hx => ?_
    rcases htwo x (h.perm.mem_iff.1 hx) with heq | heq
    · simp [heq, hlt.ne']
    · simp [heq, hlt.ne]
  rw [h.eq_append_of_le hmin, hheavy, h.stable]

/-- **Two picks of two weights**, the one heavier than the other: what is picked out of the ranked
list is the heavier pick and then the other, each in the order in which it came. -/
theorem filter_or (h : IsRanking weight xs ranked) {p q : α → Bool} (hlt : w < w')
    (hp : ∀ x ∈ xs, p x = true → weight x = w') (hq : ∀ x ∈ xs, q x = true → weight x = w) :
    ranked.filter (fun x => p x || q x) = xs.filter p ++ xs.filter q := by
  have hboth := h.filter fun x => p x || q x
  rw [hboth.eq_append_of_two hlt fun x hx => ?two, List.filter_filter, List.filter_filter]
  case two =>
    obtain ⟨hx, hpq⟩ := List.mem_filter.1 hx
    exact (Bool.or_eq_true_iff.1 hpq).imp (hp x hx) (hq x hx)
  congr 1
  · refine List.filter_congr fun x hx => ?_
    cases hpx : p x with
    | true => simp [hp x hx hpx]
    | false =>
      cases hqx : q x with
      | true => simp [hq x hx hqx, hlt.ne]
      | false => simp
  · refine List.filter_congr fun x hx => ?_
    cases hqx : q x with
    | true => simp [hq x hx hqx]
    | false =>
      cases hpx : p x with
      | true => simp [hp x hx hpx, hlt.ne']
      | false => simp

/-- Lists that agree on the things of each weight have the same things. -/
theorem mem_iff_of_filter_eq {ranked' : List α}
    (h : ∀ w, ranked.filter (weight · = w) = ranked'.filter (weight · = w)) {x : α} :
    x ∈ ranked ↔ x ∈ ranked' := by
  have hx : x ∈ ranked.filter (weight · = weight x) ↔ x ∈ ranked'.filter (weight · = weight x) := by
    rw [h]
  simpa using hx

/-- Lists in order that agree on the things of each weight are the same. -/
theorem eq_of_filter_eq {ranked' : List α} (h : ranked.Pairwise fun x y => weight y ≤ weight x)
    (h' : ranked'.Pairwise fun x y => weight y ≤ weight x)
    (hfilter : ∀ w, ranked.filter (weight · = w) = ranked'.filter (weight · = w)) :
    ranked = ranked' := by
  induction ranked generalizing ranked' with
  | nil =>
    refine (List.eq_nil_iff_forall_not_mem.2 fun x hx => ?_).symm
    exact List.not_mem_nil ((mem_iff_of_filter_eq hfilter).2 hx)
  | cons x ranked ih =>
    have hx : x ∈ ranked' := (mem_iff_of_filter_eq hfilter).1 List.mem_cons_self
    obtain ⟨y, ranked', rfl⟩ := List.exists_cons_of_ne_nil (List.ne_nil_of_mem hx)
    have hy : y ∈ x :: ranked := (mem_iff_of_filter_eq hfilter).2 List.mem_cons_self
    -- each of the two heads is as heavy as anything in either list
    have hweight : weight x = weight y := by
      refine le_antisymm ?_ ?_
      · exact (List.mem_cons.1 hx).elim (fun he => he ▸ le_rfl) (List.rel_of_pairwise_cons h')
      · exact (List.mem_cons.1 hy).elim (fun he => he ▸ le_rfl) (List.rel_of_pairwise_cons h)
    obtain rfl : x = y := by
      have hheads := hfilter (weight x)
      simp only [List.filter_cons, hweight, decide_true, if_true] at hheads
      exact (List.cons.inj hheads).1
    rw [ih h.of_cons h'.of_cons fun w => ?_]
    have hw := hfilter w
    by_cases hxw : weight x = w <;> simpa [List.filter_cons, hxw] using hw

/-- **A list is put in order in one way.** -/
theorem unique {ranked' : List α} (h : IsRanking weight xs ranked)
    (h' : IsRanking weight xs ranked') : ranked = ranked' :=
  eq_of_filter_eq h.nonincreasing h'.nonincreasing fun w => (h.stable w).trans (h'.stable w).symm

end IsRanking

/-- Picking things out of a list in order, and putting in order what was picked out. -/
theorem filter_rankBy (weight : α → Weight) (xs : List α) (p : α → Bool) :
    (rankBy weight xs).filter p = rankBy weight (xs.filter p) :=
  ((isRanking_rankBy weight xs).filter p).unique (isRanking_rankBy weight (xs.filter p))

/-- Changing things without changing their weights, before they are put in order or after. -/
theorem map_rankBy {β : Type} {weight : α → Weight} {weight' : β → Weight} {f : α → β}
    (h : ∀ x, weight' (f x) = weight x) (xs : List α) :
    (rankBy weight xs).map f = rankBy weight' (xs.map f) :=
  List.map_mergeSort fun x _ y _ => by rw [h, h]

/-! ### Repeated texts -/

/-- **`kept` is the first of each text in `xs`**, in the order of `xs`. -/
structure KeepsFirst (text : α → String) (xs kept : List α) : Prop where
  sublist : kept.Sublist xs
  nodup : (kept.map text).Nodup
  find?_eq : ∀ t, kept.find? (text · = t) = xs.find? (text · = t)

/-- Nothing is kept whose text came before. -/
theorem text_notMem_of_mem_distinctFrom {text : α → String} {seen : List String} {xs : List α}
    {x : α} (h : x ∈ distinctFrom text seen xs) : text x ∉ seen := by
  induction xs generalizing seen with
  | nil => simp [distinctFrom] at h
  | cons y ys ih =>
    rw [distinctFrom] at h
    by_cases hy : text y ∈ seen
    · exact ih (by simpa [hy] using h)
    · rw [if_neg (by simpa using hy)] at h
      rcases List.mem_cons.1 h with rfl | h
      · exact hy
      · exact fun hx => ih h (List.mem_cons_of_mem _ hx)

/-- No two things of one text are kept. -/
theorem nodup_map_distinctFrom (text : α → String) (seen : List String) (xs : List α) :
    ((distinctFrom text seen xs).map text).Nodup := by
  induction xs generalizing seen with
  | nil => exact .nil
  | cons y ys ih =>
    rw [distinctFrom]
    split
    · exact ih seen
    · refine List.nodup_cons.2 ⟨fun hmem => ?_, ih _⟩
      obtain ⟨x, hx, hxy⟩ := List.mem_map.1 hmem
      exact text_notMem_of_mem_distinctFrom hx (hxy ▸ List.mem_cons_self)

/-- Of a text that did not come before the first thing is kept. -/
theorem find?_distinctFrom (text : α → String) {seen : List String} (xs : List α) {t : String}
    (ht : t ∉ seen) :
    (distinctFrom text seen xs).find? (text · = t) = xs.find? (text · = t) := by
  induction xs generalizing seen with
  | nil => rfl
  | cons y ys ih =>
    rw [distinctFrom]
    by_cases hyt : text y = t
    · rw [if_neg (by simpa [hyt] using ht)]
      simp [hyt]
    · rw [List.find?_cons_of_neg (by simpa using hyt)]
      split
      · exact ih ht
      · rw [List.find?_cons_of_neg (by simpa using hyt)]
        exact ih (by simpa [ht] using Ne.symm hyt)

/-- **Only the first of each text is kept**, and that of every text. -/
theorem keepsFirst_distinctBy (text : α → String) (xs : List α) :
    KeepsFirst text xs (distinctBy text xs) where
  sublist := distinctBy_sublist text xs
  nodup := nodup_map_distinctFrom text [] xs
  find?_eq _ := find?_distinctFrom text xs List.not_mem_nil

namespace KeepsFirst

variable {text : α → String} {xs kept : List α}

/-- No text gets lost. -/
theorem exists_mem (h : KeepsFirst text xs kept) {x : α} (hx : x ∈ xs) :
    ∃ y ∈ kept, text y = text x := by
  have hsome : (xs.find? (text · = text x)).isSome :=
    List.find?_isSome.2 ⟨x, hx, by simp⟩
  rw [← h.find?_eq] at hsome
  obtain ⟨y, hy, hyx⟩ := List.find?_isSome.1 hsome
  exact ⟨y, hy, by simpa using hyx⟩

/-- What is the first of its text is kept. -/
theorem mem_of_find? (h : KeepsFirst text xs kept) {x : α}
    (hx : xs.find? (text · = text x) = some x) : x ∈ kept :=
  List.mem_of_find?_eq_some ((h.find?_eq _).trans hx)

end KeepsFirst

end SelectorFinder.Inspection
