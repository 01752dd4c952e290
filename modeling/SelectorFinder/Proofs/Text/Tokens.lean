import Mathlib.Data.List.TakeWhile
import SelectorFinder.Text.Runs

/-!
# Tokens

What the runs of a text are, said without the scan that finds them: a token is a stretch
without a separator that is not empty and that a separator or an end of the text bounds on
either side.

## Main results

* `runs_intercalate`: words put together with separators are read back.
* `isToken_of_mem_runs`, `IsToken.mem_runs`: the runs are the tokens.
* `exists_mem_runs`: every character that separates nothing lies in a run.
* `IsToken.congr`: what is a token depends only on the characters that occur.
-/

namespace SelectorFinder.Text

/-- **Tokens.** The stretch is not empty, holds no separator, and neither side of it can be
prolonged. -/
structure IsToken (separates : Char → Bool) (text word : List Char) : Prop where
  ne_nil : word ≠ []
  notMem : ∀ c ∈ word, separates c = false
  bounded : ∃ before after, text = before ++ word ++ after ∧
    (∀ c ∈ before.getLast?, separates c = true) ∧ (∀ c ∈ after.head?, separates c = true)

variable {p q : Char → Bool}

/-! ### Stretches -/

/-- What is taken of a stretch of such characters and what follows it: the stretch. -/
theorem takeWhile_stretch {xs rest : List Char} (hx : ∀ c ∈ xs, p c = true)
    (hr : ∀ c ∈ rest.head?, p c = false) : (xs ++ rest).takeWhile p = xs := by
  rw [List.takeWhile_append_of_pos hx]
  cases rest with
  | nil => simp
  | cons c rest => simp [hr c rfl]

/-- What is left of it: what follows. -/
theorem dropWhile_stretch {xs rest : List Char} (hx : ∀ c ∈ xs, p c = true)
    (hr : ∀ c ∈ rest.head?, p c = false) : (xs ++ rest).dropWhile p = rest := by
  rw [List.dropWhile_append_of_pos hx]
  cases rest with
  | nil => rfl
  | cons c rest => simp [hr c rfl]

/-- What is taken up to a character: what is in front of the first one. -/
theorem takeWhile_until {d : Char} {xs : List Char} (hx : d ∉ xs) (rest : List Char) :
    (xs ++ d :: rest).takeWhile (fun c => decide (c ≠ d)) = xs := by
  refine takeWhile_stretch (fun c hc => decide_eq_true fun he => hx (he ▸ hc)) ?_
  rintro c ⟨⟩
  exact decide_eq_false fun h => h rfl

/-- What is taken up to a character that is not taken does not depend on what follows it. -/
theorem takeWhile_append_cons {x : Char} (h : p x = false) (xs rest : List Char) :
    (xs ++ x :: rest).takeWhile p = xs.takeWhile p := by
  rw [List.takeWhile_append, List.takeWhile_cons_of_neg (by simp [h]), List.append_nil]
  split
  next hall => exact ((List.takeWhile_prefix p).eq_of_length hall).symm
  next => rfl

/-- A stretch that is dropped ends before what does not belong to it. -/
theorem dropWhile_append_cons {x : Char} (h : p x = false) (xs rest : List Char) :
    (xs ++ x :: rest).dropWhile p = xs.dropWhile p ++ x :: rest := by
  induction xs with
  | nil => simp [h]
  | cons c xs ih =>
    cases hc : p c <;> simp [hc, ih]

/-- What is taken up to a character that is there leaves at least that character. -/
theorem length_takeWhile_ne_lt {d : Char} {cs : List Char} (h : d ∈ cs) :
    (cs.takeWhile (fun c => decide (c ≠ d))).length < cs.length := by
  refine Nat.lt_of_le_of_ne (List.takeWhile_prefix _).length_le fun hlen => ?_
  have hall := (List.takeWhile_prefix _).eq_of_length hlen
  simpa using List.takeWhile_eq_self_iff.1 hall d h

/-- So it does not depend on what follows. -/
theorem takeWhile_ne_append {d : Char} {cs : List Char} (h : d ∈ cs) (rest : List Char) :
    (cs ++ rest).takeWhile (fun c => decide (c ≠ d)) = cs.takeWhile (fun c => decide (c ≠ d)) := by
  rw [List.takeWhile_append, if_neg (Nat.ne_of_lt (length_takeWhile_ne_lt h))]

/-- What is taken up to a character that is not there is the whole text. -/
theorem takeWhile_ne_of_notMem {d : Char} {cs : List Char} (h : d ∉ cs) :
    cs.takeWhile (fun c => decide (c ≠ d)) = cs := by
  refine List.takeWhile_eq_self_iff.2 fun c hc => decide_eq_true ?_
  rintro rfl
  exact h hc

/-! ### Runs put together -/

/-- A stretch that is not empty is the first run of a text in which a separator, or nothing,
follows it. -/
theorem runs_append_stretch {xs rest : List Char} (hne : xs ≠ []) (hx : ∀ c ∈ xs, p c = false)
    (hr : ∀ c ∈ rest.head?, p c = true) : runs p (xs ++ rest) = xs :: runs p rest := by
  obtain ⟨c, xs, rfl⟩ := List.exists_cons_of_ne_nil hne
  have hc : ¬ p c = true := by simp [hx c List.mem_cons_self]
  have hstretch : ∀ c ∈ xs, (!p c) = true := fun c hc => by
    simp [hx c (List.mem_cons_of_mem _ hc)]
  have hstop : ∀ c ∈ rest.head?, (!p c) = false := fun c hc => by simp [hr c hc]
  rw [List.cons_append, runs, if_neg hc, takeWhile_stretch hstretch hstop,
    dropWhile_stretch hstretch hstop]

/-- **A separator parts the runs** before it from those behind. -/
theorem runs_append_cons {sep : Char} (hsep : p sep = true) (xs rest : List Char) :
    runs p (xs ++ sep :: rest) = runs p xs ++ runs p rest := by
  have hstop : (!p sep) = false := by simp [hsep]
  fun_induction runs p xs with
  | case1 => rw [List.nil_append, List.nil_append, runs, if_pos hsep]
  | case2 c xs hc ih => rw [List.cons_append, runs, if_pos hc, ih]
  | case3 c xs hc ih =>
    rw [List.cons_append, runs, if_neg hc, takeWhile_append_cons hstop,
      dropWhile_append_cons hstop, ih, List.cons_append]

/-- **Words with a separator between each two** are the runs of the text that they make. -/
theorem runs_intercalate {sep : Char} (hsep : p sep = true) {words : List (List Char)}
    (hw : ∀ w ∈ words, w ≠ [] ∧ ∀ c ∈ w, p c = false) :
    runs p (List.intercalate [sep] words) = words := by
  induction words with
  | nil => simp [runs]
  | cons w ws ih =>
    obtain ⟨hne, hplain⟩ := hw w List.mem_cons_self
    have ih := ih fun v hv => hw v (List.mem_cons_of_mem _ hv)
    cases ws with
    | nil =>
      have hrun : runs p (w ++ []) = w :: runs p [] := runs_append_stretch hne hplain (by simp)
      simpa [runs] using hrun
    | cons v vs =>
      rw [List.intercalate_cons_cons, List.append_assoc,
        runs_append_stretch hne hplain (by simpa using hsep), List.singleton_append, runs,
        if_pos hsep, ih]

/-! ### Runs are tokens -/

/-- What is left behind a run starts with a separator. -/
theorem separates_head?_dropWhile {cs : List Char} :
    ∀ c ∈ (cs.dropWhile (!p ·)).head?, p c = true := by
  intro c hc
  have := List.head?_dropWhile_not (!p ·) cs
  rw [Option.mem_def.1 hc] at this
  simpa using this

/-- A token of what follows a text that ends with a separator is a token of the whole. -/
theorem IsToken.append_left {before cs word : List Char} (h : IsToken p cs word)
    (hb : ∀ c ∈ before.getLast?, p c = true) : IsToken p (before ++ cs) word := by
  obtain ⟨left, right, rfl, hl, hr⟩ := h.bounded
  refine ⟨h.ne_nil, h.notMem, before ++ left, right, by simp, fun c hc => ?_, hr⟩
  rw [List.getLast?_append] at hc
  cases hlast : left.getLast? with
  | none => exact hb c (by simpa [hlast] using hc)
  | some x =>
    obtain rfl : x = c := by simpa [hlast] using hc
    exact hl x hlast

/-- A token of a text that starts with a separator lies behind it. -/
theorem IsToken.of_cons {c : Char} {cs word : List Char} (h : IsToken p (c :: cs) word)
    (hc : p c = true) : IsToken p cs word := by
  obtain ⟨left, right, hs, hl, hr⟩ := h.bounded
  cases left with
  | nil =>
    obtain ⟨x, xs, rfl⟩ := List.exists_cons_of_ne_nil h.ne_nil
    obtain ⟨rfl, -⟩ := List.cons.inj hs
    simp [h.notMem c List.mem_cons_self] at hc
  | cons x left =>
    obtain ⟨-, rfl⟩ := List.cons.inj hs
    refine ⟨h.ne_nil, h.notMem, left, right, rfl, fun d hd => hl d ?_, hr⟩
    rw [List.getLast?_cons, Option.mem_def.1 hd]
    rfl

/-- The characters of a stretch without separator that starts with `c`. -/
theorem eq_false_of_mem_cons_takeWhile {c d : Char} {cs : List Char} (hc : ¬ p c = true)
    (hd : d ∈ c :: cs.takeWhile (!p ·)) : p d = false := by
  rcases List.mem_cons.1 hd with rfl | hd
  · simpa using hc
  · simpa using List.mem_takeWhile_imp hd

/-- **Every run is a token.** -/
theorem isToken_of_mem_runs {cs run : List Char} (h : run ∈ runs p cs) : IsToken p cs run := by
  fun_induction runs p cs with
  | case1 => simp at h
  | case2 c cs hc ih =>
    have hlast : ∀ d ∈ [c].getLast?, p d = true := by simpa using hc
    exact (ih h).append_left hlast
  | case3 c cs hc ih =>
    rcases List.mem_cons.1 h with rfl | h
    · refine ⟨List.cons_ne_nil _ _, ?_, [], cs.dropWhile (!p ·), ?_, by simp,
        separates_head?_dropWhile⟩
      · exact fun d hd => eq_false_of_mem_cons_takeWhile hc hd
      · simp
    · -- the run lies behind the first one, so a separator stands between them
      cases hrest : cs.dropWhile (!p ·) with
      | nil => simp [hrest, runs] at h
      | cons sep rest =>
        have hsep : p sep = true := separates_head?_dropWhile sep (by rw [hrest]; rfl)
        have htoken : IsToken p rest run := (hrest ▸ ih h).of_cons hsep
        have htext : c :: cs = (c :: cs.takeWhile (!p ·) ++ [sep]) ++ rest := by
          simp [← hrest]
        rw [htext]
        refine htoken.append_left fun d hd => ?_
        rw [List.getLast?_concat] at hd
        exact Option.some.inj hd ▸ hsep

/-- **Nothing is lost**: a character that separates nothing lies in a run. -/
theorem exists_mem_runs {c : Char} {cs : List Char} (hc : c ∈ cs) (h : p c = false) :
    ∃ run ∈ runs p cs, c ∈ run := by
  fun_induction runs p cs with
  | case1 => simp at hc
  | case2 d cs hd ih =>
    rcases List.mem_cons.1 hc with rfl | hc
    · simp [h] at hd
    · exact ih hc
  | case3 d cs hd ih =>
    rw [← List.takeWhile_append_dropWhile (p := (!p ·)) (l := cs), ← List.cons_append] at hc
    rcases List.mem_append.1 hc with hc | hc
    · exact ⟨_, List.mem_cons_self, hc⟩
    · obtain ⟨run, hrun, hm⟩ := ih hc
      exact ⟨run, List.mem_cons_of_mem _ hrun, hm⟩

/-- **Every token is a run.** -/
theorem IsToken.mem_runs {cs word : List Char} (h : IsToken p cs word) : word ∈ runs p cs := by
  obtain ⟨left, right, rfl, hl, hr⟩ := h.bounded
  have hword : word ∈ runs p (word ++ right) := by
    rw [runs_append_stretch h.ne_nil h.notMem hr]
    exact List.mem_cons_self
  rw [List.append_assoc]
  rcases List.eq_nil_or_concat left with rfl | ⟨front, sep, hleft⟩
  · exact hword
  · rw [List.concat_eq_append] at hleft
    have hsep : p sep = true := hl sep (by rw [hleft, List.getLast?_concat]; rfl)
    rw [hleft, List.append_assoc, List.singleton_append, runs_append_cons hsep]
    exact List.mem_append_right _ hword

/-- **Separators are known by the characters that occur.** -/
theorem IsToken.congr {cs word : List Char} (h : IsToken p cs word) (hpq : ∀ c ∈ cs, p c = q c) :
    IsToken q cs word := by
  obtain ⟨left, right, rfl, hl, hr⟩ := h.bounded
  refine ⟨h.ne_nil, fun c hc => ?_, left, right, rfl, fun c hc => ?_, fun c hc => ?_⟩
  · rw [← hpq c (by simp [hc])]
    exact h.notMem c hc
  · rw [← hpq c (by simp [List.mem_of_getLast? hc])]
    exact hl c hc
  · rw [← hpq c (by simp [List.mem_of_head? hc])]
    exact hr c hc

/-! ### Digits -/

/-- The digits of a number. -/
theorem toList_toString (n : Nat) : (toString n).toList = Nat.toDigits 10 n := by
  rw [Nat.toString_eq_repr, Nat.toList_repr]

/-- A number is written in digits. -/
theorem isDigit_of_mem_toString {n : Nat} {c : Char} (h : c ∈ (toString n).toList) :
    c.isDigit = true := by
  rw [toList_toString] at h
  exact Nat.isDigit_of_mem_toDigits (by decide) (by decide) h

/-- A number is written with one digit at least. -/
theorem toList_toString_ne_nil (n : Nat) : (toString n).toList ≠ [] := by
  rw [toList_toString]
  exact Nat.toDigits_ne_nil

end SelectorFinder.Text
