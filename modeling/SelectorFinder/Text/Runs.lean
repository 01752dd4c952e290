/-!
# Runs

A text cut at separators gives its runs: the maximal stretches without a separator, in
order. Two separators side by side, or one at an end, make no empty run.

## Main results

* `ne_nil_of_mem_runs`: no run is empty.
* `notMem_separator_of_mem_runs`: no run holds a separator.
-/

namespace SelectorFinder.Text

/-- The maximal stretches of a list of characters that hold no separator. -/
def runs (isSeparator : Char → Bool) : List Char → List (List Char)
  | [] => []
  | c :: cs =>
    if isSeparator c then runs isSeparator cs
    else
      (c :: cs.takeWhile (!isSeparator ·)) :: runs isSeparator (cs.dropWhile (!isSeparator ·))
termination_by cs => cs.length
decreasing_by
  · simp
  · have := (List.dropWhile_suffix (l := cs) (!isSeparator ·)).length_le
    simp; omega

/-- A run has a character at least. -/
theorem ne_nil_of_mem_runs {p : Char → Bool} {cs run : List Char} (h : run ∈ runs p cs) :
    run ≠ [] := by
  fun_induction runs p cs with
  | case1 => simp at h
  | case2 _ _ _ ih => exact ih h
  | case3 _ _ _ ih =>
    rcases List.mem_cons.1 h with rfl | h
    · simp
    · exact ih h

/-- No separator stands in a run. -/
theorem notMem_separator_of_mem_runs {p : Char → Bool} {cs run : List Char}
    (h : run ∈ runs p cs) : ∀ c ∈ run, p c = false := by
  fun_induction runs p cs with
  | case1 => simp at h
  | case2 _ _ _ ih => exact ih h
  | case3 c cs hc ih =>
    rcases List.mem_cons.1 h with rfl | h
    · intro d hd
      rcases List.mem_cons.1 hd with rfl | hd
      · simpa using hc
      · simpa using List.all_takeWhile (l := cs) (p := (!p ·)) |> List.all_eq_true.1 |> (· d hd)
    · exact ih h

end SelectorFinder.Text
