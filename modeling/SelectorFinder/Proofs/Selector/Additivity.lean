import SelectorFinder.Proofs.Selector.Fences
import SelectorFinder.Selector.Specificity

/-!
# Weights Add Up over Blanks

Any text can be scanned, also one that is no selector, and a blank parts it: no match of any
pattern of the scan reaches over the blank, and what stands behind it is scanned like a text
of its own. This holds of the text as it is written and of each text that the scan makes of
it, since what is taken out or blanked out on one side of the blank leaves the blank where it
is. The two patterns that go on to a closing character are the exception: an open bracket is
closed by a bracket behind the blank, and an open parenthesis by a parenthesis there. Where
no such pair stands on the two sides, the weights of the sides add up.

## Main results

* `PartedByBlank.pieces`: where a blank parts two texts, they are scanned one by one.
* `weigh_append_blank`: the weight of a text with a blank is the sum of the weights around it.
* `specificity_additive`: the same for texts with a blank or a combinator between them.
-/

namespace SelectorFinder.Selector

open SelectorFinder.Text

variable {p : Pattern} {before : Option Char} {xs ys cs : List Char}

/-! ### Words end at a blank -/

/-- A word ends before a blank. -/
theorem wordAt_append_blank (cs ys : List Char) : wordAt (cs ++ ' ' :: ys) = wordAt cs :=
  takeWhile_append_cons (by decide) cs ys

/-- A word is not longer than the text that it starts. -/
theorem length_wordAt_le (cs : List Char) : (wordAt cs).length ≤ cs.length :=
  (List.takeWhile_prefix _).length_le

/-- **Hyphenated words do not reach over a blank.** The induction goes from one word to the
next. -/
theorem hyphenatedLength_append_blank (cs ys : List Char) :
    hyphenatedLength (cs ++ ' ' :: ys) = hyphenatedLength cs ∧
      hyphenatedLength cs ≤ cs.length := by
  fun_induction hyphenatedLength cs with
  | case1 cs word hword ih =>
    obtain ⟨heq, hle⟩ := ih
    have hlen := length_wordAt_le cs
    rw [List.cons_append, hyphenatedLength, wordAt_append_blank, if_pos hword,
      List.drop_append_of_le_length hlen, heq]
    refine ⟨rfl, ?_⟩
    simp only [word, List.length_drop, List.length_cons] at hle ⊢
    omega
  | case2 cs word hword =>
    rw [List.cons_append, hyphenatedLength, wordAt_append_blank, if_neg hword]
    exact ⟨rfl, Nat.zero_le _⟩
  | case3 cs hne =>
    refine ⟨?_, Nat.zero_le _⟩
    rw [hyphenatedLength]
    cases cs with
    | nil => simp
    | cons c cs =>
      rintro ds heq
      exact hne cs (congrArg (· :: cs) (List.cons.inj heq).1)

/-! ### Patterns that a blank parts -/

/-- **A blank parts two texts** for a pattern: no match begins at the blank, none that begins
in front of it reaches it, and what follows is scanned like the start of a text. -/
structure PartedByBlank (p : Pattern) (xs ys : List Char) : Prop where
  inert : Inert p ' '
  fence : Fence p xs (' ' :: ys)
  restart : ∀ cs, p (some ' ') cs = p none cs

/-- No pseudo-element goes over a blank. -/
theorem partedByBlank_pseudoElement (xs ys : List Char) : PartedByBlank pseudoElement xs ys where
  inert := inert_pseudoElement (by decide)
  fence _ _ hne _ :=
    fence_pseudoElement (fun _ => pseudoElement_of_ne (by decide) ys) (by decide) hne
  restart := pseudoElement_before _ _

/-- An attribute that is open at the blank must not be closed behind it. -/
theorem partedByBlank_attributeToken (h : '[' ∉ xs ∨ ']' ∉ ys) :
    PartedByBlank attributeToken xs ys where
  inert := inert_attributeToken (by decide)
  fence := fence_attributeToken (h.imp_right fun hys => by simp [hys])
  restart := attributeToken_before _ _

/-- No name behind a mark goes over a blank. -/
theorem partedByBlank_markedName {mark : Char} (h : ' ' ≠ mark) (xs ys : List Char) :
    PartedByBlank (markedName mark) xs ys where
  inert := inert_markedName h
  fence := fence_markedName (by decide) xs ys
  restart cs := by cases cs <;> rfl

/-- No id goes over a blank. -/
theorem partedByBlank_idToken (xs ys : List Char) : PartedByBlank idToken xs ys :=
  partedByBlank_markedName (by decide) xs ys

/-- No class goes over a blank. -/
theorem partedByBlank_classToken (xs ys : List Char) : PartedByBlank classToken xs ys :=
  partedByBlank_markedName (by decide) xs ys

/-- No name of a pseudo-class goes over a blank. -/
theorem partedByBlank_pseudoName (xs ys : List Char) : PartedByBlank pseudoName xs ys where
  inert := inert_pseudoName (by decide)
  fence := fence_pseudoName (by decide) (fun h => absurd h (by decide)) ys
  restart cs := by
    unfold pseudoName
    split <;> rfl

/-- Arguments that are open at the blank must not be closed behind it. -/
theorem partedByBlank_pseudoToken (h : '(' ∉ xs ∨ ')' ∉ ys) :
    PartedByBlank pseudoToken xs ys where
  inert := inert_pseudoToken (by decide)
  fence := fence_pseudoToken (by decide) (fun h => absurd h (by decide)) (by decide)
    (h.imp_right fun hys => by simp [hys])
  restart cs := by rw [pseudoToken, (partedByBlank_pseudoName xs ys).restart, pseudoToken]

/-- No identifier goes over a blank. -/
theorem partedByBlank_identifier (xs ys : List Char) : PartedByBlank identifier xs ys where
  inert := inert_identifier (by decide)
  fence cs _ _ b := by
    have hlen := length_wordAt_le cs
    obtain ⟨heq, hle⟩ := hyphenatedLength_append_blank (cs.drop (wordAt cs).length) ys
    rw [List.length_drop] at hle
    simp only [identifier, wordAt_append_blank, List.drop_append_of_le_length hlen, heq, true_and]
    split
    · exact Nat.zero_le _
    · split <;> omega
  restart cs := by
    have hblank : isWordChar ' ' = false := by decide
    simp [identifier, hblank]

namespace PartedByBlank

/-- **Two texts with a blank between them** are scanned one by one. -/
theorem pieces (h : PartedByBlank p xs ys) :
    pieces p none (xs ++ ' ' :: ys) = pieces p none xs ++ .plain ' ' :: pieces p none ys := by
  rw [pieces_append_of_fence h.fence, pieces_cons_of_zero (h.inert _ _),
    pieces_congr_before h.restart]

/-- What is matched of both sides is matched together. -/
theorem matchesOf (h : PartedByBlank p xs ys) :
    matchesOf p (xs ++ ' ' :: ys) = matchesOf p xs ++ matchesOf p ys := by
  rw [Selector.matchesOf, h.pieces, List.filterMap_append]
  rfl

/-- What is replaced on both sides is replaced together, and the blank stays. -/
theorem replaceAll (h : PartedByBlank p xs ys) (replacement : List Char) :
    replaceAll p replacement (xs ++ ' ' :: ys) =
      replaceAll p replacement xs ++ ' ' :: replaceAll p replacement ys := by
  rw [Selector.replaceAll, h.pieces, List.flatMap_append]
  rfl

end PartedByBlank

/-! ### Sums of weights -/

namespace Weight

/-- **The sum of two weights**, component by component, each cut down to the largest count
that it holds. -/
def plus (a b : Weight) : Weight where
  inline := addCapped a.inline b.inline
  ids := addCapped a.ids b.ids
  classes := addCapped a.classes b.classes
  elements := addCapped a.elements b.elements

/-- A count of two parts is cut down once or in each part, to the same effect. -/
theorem capped_add (m n : Nat) : capped (m + n) = addCapped (capped m) (capped n) := by
  simp only [addCapped, capped]
  omega

/-- The order in which counts are put together is of no matter. -/
theorem addCapped_addCapped_comm (a b c d : Nat) :
    addCapped (addCapped a b) (addCapped c d) = addCapped (addCapped a c) (addCapped b d) := by
  simp only [addCapped, capped]
  omega

end Weight

open Weight

/-- The matches of both sides are counted together. -/
theorem PartedByBlank.countOf (h : PartedByBlank p xs ys) :
    countOf p (xs ++ ' ' :: ys) = addCapped (countOf p xs) (countOf p ys) := by
  rw [Selector.countOf, h.matchesOf, List.length_append, capped_add]
  rfl

/-- The pseudo-classes of both sides are counted together, unless arguments go over the blank. -/
theorem pseudoClassCount_append_blank (h : '(' ∉ xs ∨ ')' ∉ ys) :
    pseudoClassCount (xs ++ ' ' :: ys) =
      addCapped (pseudoClassCount xs) (pseudoClassCount ys) := by
  rw [pseudoClassCount, (partedByBlank_pseudoToken h).matchesOf, List.filter_append,
    List.length_append, capped_add]
  rfl

/-- The type names of both sides are counted together. -/
theorem typeNameCount_append_blank (xs ys : List Char) :
    typeNameCount (xs ++ ' ' :: ys) = addCapped (typeNameCount xs) (typeNameCount ys) := by
  rw [typeNameCount, (partedByBlank_identifier xs ys).matchesOf, List.filter_append,
    List.length_append, capped_add]
  rfl

/-- A character other than the blank that stands nowhere in a text does not come in when
matches are taken out or blanked out. -/
theorem notMem_replaceAll {replacement text : List Char} {c : Char} (hr : c ∉ replacement)
    (h : c ∉ text) : c ∉ replaceAll p replacement text :=
  fun hm => (mem_of_mem_replaceAll hm).elim hr h

/-- **Weights add up over a blank**, unless a bracket or a parenthesis is opened before it and
closed behind. -/
theorem weigh_append_blank (hbracket : '[' ∉ xs ∨ ']' ∉ ys) (hparen : '(' ∉ xs ∨ ')' ∉ ys) :
    weigh (xs ++ ' ' :: ys) = (weigh xs).plus (weigh ys) := by
  have htext : withoutPseudoElements (xs ++ ' ' :: ys) =
      withoutPseudoElements xs ++ ' ' :: withoutPseudoElements ys :=
    (partedByBlank_pseudoElement xs ys).replaceAll []
  generalize hx : withoutPseudoElements xs = xs₁ at htext
  generalize hy : withoutPseudoElements ys = ys₁ at htext
  have hbracket₁ : '[' ∉ xs₁ ∨ ']' ∉ ys₁ := by
    rw [← hx, ← hy]
    exact hbracket.imp (notMem_replaceAll List.not_mem_nil) (notMem_replaceAll List.not_mem_nil)
  have hattributes := partedByBlank_attributeToken hbracket₁
  have hscanned : blanked attributeToken (xs₁ ++ ' ' :: ys₁) =
      blanked attributeToken xs₁ ++ ' ' :: blanked attributeToken ys₁ :=
    hattributes.replaceAll [' ']
  generalize hx₂ : blanked attributeToken xs₁ = xs₂ at hscanned
  generalize hy₂ : blanked attributeToken ys₁ = ys₂ at hscanned
  have hparen₂ : '(' ∉ xs₂ ∨ ')' ∉ ys₂ := by
    rw [← hx₂, ← hy₂, ← hx, ← hy]
    exact hparen.imp
      (fun h => notMem_replaceAll (by decide) (notMem_replaceAll List.not_mem_nil h))
      (fun h => notMem_replaceAll (by decide) (notMem_replaceAll List.not_mem_nil h))
  have hids := partedByBlank_idToken xs₂ ys₂
  have hclasses := partedByBlank_classToken xs₂ ys₂
  have hnamed : blanked pseudoName (blanked classToken (blanked idToken (xs₂ ++ ' ' :: ys₂))) =
      blanked pseudoName (blanked classToken (blanked idToken xs₂)) ++
        ' ' :: blanked pseudoName (blanked classToken (blanked idToken ys₂)) := by
    simp only [blanked]
    rw [hids.replaceAll, (partedByBlank_classToken _ _).replaceAll,
      (partedByBlank_pseudoName _ _).replaceAll]
  simp only [weigh, htext, hx, hy, hscanned, hx₂, hy₂, hnamed, hids.countOf, hclasses.countOf,
    hattributes.countOf, pseudoClassCount_append_blank hparen₂, typeNameCount_append_blank, plus,
    addCapped_addCapped_comm]
  rfl

/-! ### Texts that are joined -/

/-- No component of a weight is larger than a component can be. -/
structure Weight.IsBounded (w : Weight) : Prop where
  inline : w.inline ≤ limit
  ids : w.ids ≤ limit
  classes : w.classes ≤ limit
  elements : w.elements ≤ limit

/-- No count of a weighed text is above the limit. -/
theorem isBounded_weigh (text : List Char) : (weigh text).IsBounded where
  inline := Nat.zero_le _
  ids := Nat.min_le_right _ _
  classes := Nat.min_le_right _ _
  elements := Nat.min_le_right _ _

namespace Weight

/-- Adding none changes no count up to the limit. -/
theorem addCapped_zero {n : Nat} (h : n ≤ limit) : addCapped n 0 = n :=
  Nat.min_eq_left h

/-- The zero weight adds nothing to a weight below the limit. -/
theorem zero_plus {w : Weight} (h : w.IsBounded) : zero.plus w = w := by
  simp only [plus, zero, addCapped, Nat.zero_add, capped, Nat.min_eq_left h.inline,
    Nat.min_eq_left h.ids, Nat.min_eq_left h.classes, Nat.min_eq_left h.elements]

/-- Adding the weight of a single class. -/
theorem plus_class {w : Weight} (h : w.IsBounded) :
    w.plus ⟨0, 0, 1, 0⟩ = { w with classes := addCapped w.classes 1 } := by
  simp only [plus, addCapped_zero h.inline, addCapped_zero h.ids, addCapped_zero h.elements]

end Weight

/-- **A sign that weighs nothing**, with a blank on both sides, is of no weight between two
texts. -/
theorem weigh_append_sign {sign : Char} (hzero : weigh [sign] = zero)
    (hplain : sign ≠ '[' ∧ sign ≠ ']' ∧ sign ≠ '(' ∧ sign ≠ ')')
    (hbracket : '[' ∉ xs ∨ ']' ∉ ys) (hparen : '(' ∉ xs ∨ ')' ∉ ys) :
    weigh (xs ++ ' ' :: sign :: ' ' :: ys) = (weigh xs).plus (weigh ys) := by
  obtain ⟨hopen, hclose, hopen', hclose'⟩ := hplain
  have hfront : ∀ c, sign ≠ c → c ∉ [sign] := by
    intro c hne
    simpa using hne.symm
  have hbehind : ∀ c, sign ≠ c → c ≠ ' ' → c ∉ ys → c ∉ [sign] ++ ' ' :: ys := by
    intro c hne hblank hc
    simp [hne.symm, hblank, hc]
  calc weigh (xs ++ ' ' :: ([sign] ++ ' ' :: ys))
      = (weigh xs).plus (weigh ([sign] ++ ' ' :: ys)) :=
        weigh_append_blank (hbracket.imp_right (hbehind ']' hclose (by decide)))
          (hparen.imp_right (hbehind ')' hclose' (by decide)))
    _ = (weigh xs).plus ((weigh [sign]).plus (weigh ys)) := by
        rw [weigh_append_blank (.inl (hfront '[' hopen)) (.inl (hfront '(' hopen'))]
    _ = (weigh xs).plus (weigh ys) := by
        rw [hzero, zero_plus (isBounded_weigh ys)]

/-- **Weights of texts add up** where a blank stands between them, unless a bracket or a
parenthesis is opened in the first and closed in the second, and the combinators with a blank
on both sides weigh nothing of their own. Nothing is asked of the texts: they need not be
selectors, and what one of them leaves open stays open. In particular, a class that is put
behind any text with a blank adds one to its classes. -/
theorem specificity_additive :
    (∀ s t : String, ('[' ∉ s.toList ∨ ']' ∉ t.toList) → ('(' ∉ s.toList ∨ ')' ∉ t.toList) →
      ∀ between ∈ [" ", " > ", " + "],
        specificity (s ++ between ++ t) = (specificity s).plus (specificity t)) ∧
      ∀ s : String, specificity (s ++ " .q") =
        { specificity s with classes := addCapped (specificity s).classes 1 } := by
  refine ⟨fun s t hbracket hparen between hbetween => ?_, fun s => ?_⟩
  · have hchild : weigh ['>'] = zero := by decide +kernel
    have hsibling : weigh ['+'] = zero := by decide +kernel
    simp only [List.mem_cons, List.not_mem_nil, or_false] at hbetween
    rcases hbetween with rfl | rfl | rfl
    · simpa [specificity] using weigh_append_blank hbracket hparen
    · simpa [specificity] using weigh_append_sign hchild (by decide) hbracket hparen
    · simpa [specificity] using weigh_append_sign hsibling (by decide) hbracket hparen
  · have hclass : weigh ".q".toList = ⟨0, 0, 1, 0⟩ := by decide +kernel
    have hsum : weigh (s.toList ++ ' ' :: ".q".toList) = _ :=
      weigh_append_blank (.inr (by decide)) (.inr (by decide))
    rw [hclass, plus_class (isBounded_weigh _)] at hsum
    simpa [specificity] using hsum

/-- An open parenthesis in front of the blank and a closed bracket behind it: each side
weighs what it weighs alone. -/
theorem specificity_additive_openArguments :
    specificity "a:not(.b [x] of" = ⟨0, 0, 3, 1⟩ := by
  have hfirst : specificity "a:not(.b" = ⟨0, 0, 2, 1⟩ := by decide +kernel
  have hsecond : specificity "[x] of" = ⟨0, 0, 1, 0⟩ := by decide +kernel
  have hsum := specificity_additive.1 "a:not(.b" "[x] of" (.inl (by decide)) (.inr (by decide))
    " " (by decide)
  rw [hfirst, hsecond] at hsum
  exact hsum

end SelectorFinder.Selector
