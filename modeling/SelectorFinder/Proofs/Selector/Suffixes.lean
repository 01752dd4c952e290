import SelectorFinder.Proofs.Selector.Additivity
import SelectorFinder.Proofs.Selector.Counting

/-!
# Suffixes of a Selector Text

What a pseudo-element or a pseudo-class adds to the weight of the text that it is put behind.
The text may be anything: it may end in half a pseudo-element, or leave a bracket or a
parenthesis open. A pseudo-element that weighs nothing is taken out and leaves the text as it
was, so it adds nothing. A colon with a name is one more pseudo-class, unless the text ends
with a colon of its own: what is counted in the text stays, since the suffix closes nothing and
no name goes on over a colon, and the suffix itself is counted once and then blanked out.

## Main results

* `weigh_append_pseudoElement`: a pseudo-element that weighs nothing leaves no trace.
* `weigh_append_pseudoClass`: a pseudo-class adds one to the classes.
* `one_le_classes`: with something behind it, it still adds to them.
* `specificity_suffix`: both laws, for texts.
-/

namespace SelectorFinder.Selector

open SelectorFinder.Text Weight

variable {p : Pattern} {xs name text : List Char} {c : Char}

/-! ### Pseudo-elements -/

/-- No colon stands in the name of a pseudo-element without weight. -/
theorem colon_notMem_of_weightless : ∀ name ∈ weightlessPseudoElements, ':' ∉ name := by
  decide

/-- Behind two colons, nothing that starts with a colon is the name of a pseudo-element. -/
theorem pseudoElement_colons (b : Option Char) (cs : List Char) :
    pseudoElement b (':' :: ':' :: ':' :: cs) = 0 := by
  have hnone : (weightlessPseudoElements.find? fun name => name.isPrefixOf (':' :: cs)) = none :=
    rfl
  rw [pseudoElement, hnone]

/-- **A pseudo-element that weighs nothing** is taken whole, whatever stands before it. -/
theorem takenWhole_pseudoElement (h : name ∈ weightlessPseudoElements) (xs : List Char) :
    TakenWhole pseudoElement xs (':' :: ':' :: name) where
  fence _ _ hne b :=
    fence_pseudoElement (fun _ => pseudoElement_colons b name) colon_notMem_of_weightless hne
  ne_nil := List.cons_ne_nil _ _
  whole b := by
    simp only [weightlessPseudoElements, List.mem_cons, List.not_mem_nil, or_false] at h
    rcases h with rfl | rfl | rfl | rfl <;> rfl

/-- So it leaves no trace behind any text. -/
theorem withoutPseudoElements_append (h : name ∈ weightlessPseudoElements) (xs : List Char) :
    withoutPseudoElements (xs ++ ':' :: ':' :: name) = withoutPseudoElements xs := by
  rw [withoutPseudoElements, (takenWhole_pseudoElement h xs).replaceAll, List.append_nil,
    withoutPseudoElements]

/-- **A pseudo-element adds nothing** to the weight of any text. -/
theorem weigh_append_pseudoElement (h : name ∈ weightlessPseudoElements) (xs : List Char) :
    weigh (xs ++ ':' :: ':' :: name) = weigh xs := by
  rw [weigh, weigh, withoutPseudoElements_append h]

/-! ### The last character of a text -/

/-- A single colon is no pseudo-element. -/
theorem passedOver_pseudoElement_colon (xs : List Char) : PassedOver pseudoElement xs [':'] where
  fence _ _ hne _ := fence_pseudoElement (fun _ => rfl) colon_notMem_of_weightless hne
  plain b := by
    rw [pieces_cons_of_zero rfl, pieces]
    rfl

/-- **A text that ends with a colon** still does so without its pseudo-elements. -/
theorem getLast?_withoutPseudoElements (h : xs.getLast? = some ':') :
    (withoutPseudoElements xs).getLast? = some ':' := by
  obtain ⟨front, rfl⟩ := List.getLast?_eq_some_iff.1 h
  rw [withoutPseudoElements, (passedOver_pseudoElement_colon front).replaceAll,
    List.getLast?_concat]

/-- **A text that ends otherwise** still does so when matches are blanked out. -/
theorem getLast?_blanked_ne (hc : c ≠ ' ') (h : text.getLast? ≠ some c) :
    (blanked p text).getLast? ≠ some c := by
  rw [← joinPieces_pieces p none text] at h
  rw [blanked, replaceAll]
  rcases List.eq_nil_or_concat (pieces p none text) with hnil | ⟨front, piece, hlast⟩
  · simp [hnil]
  · rw [hlast, List.concat_eq_append, List.flatMap_append, List.flatMap_singleton] at h ⊢
    cases piece with
    | plain d => simpa [Piece.chars] using h
    | hit d more => simpa using hc.symm

/-! ### Pseudo-classes -/

/-- A mark, a bracket or a parenthesis is no character of a name. -/
theorem ne_of_isNameChar {d : Char} (hd : isNameChar d = true) (hc : isNameChar c = false) :
    d ≠ c := by
  rintro rfl
  simp [hd] at hc

/-- What may not stand in a name does not. -/
theorem notMem_of_isNameChar (hname : ∀ c ∈ name, isNameChar c = true)
    (hc : isNameChar c = false) : c ∉ name :=
  fun hm => ne_of_isNameChar (hname c hm) hc rfl

/-- A pattern whose matches begin with another mark passes over a colon with a name. -/
theorem pieces_pseudoClass_of_inert {mark : Char} (hinert : ∀ c, c ≠ mark → Inert p c)
    (hcolon : ':' ≠ mark) (hmark : isNameChar mark = false)
    (hname : ∀ c ∈ name, isNameChar c = true) (b : Option Char) :
    pieces p b (':' :: name) = (':' :: name).map .plain := by
  refine pieces_of_inert (List.forall_mem_cons.2 ⟨hinert ':' hcolon, fun c hc => hinert c ?_⟩)
  rintro rfl
  exact notMem_of_isNameChar hname hmark hc

/-- **Pseudo-elements** are not found in a pseudo-class that meets no other colon. -/
theorem passedOver_pseudoElement (hlast : xs.getLast? ≠ some ':')
    (hname : ∀ c ∈ name, isNameChar c = true) : PassedOver pseudoElement xs (':' :: name) where
  fence cs hs hne b := by
    refine fence_pseudoElement (fun hcs => ?_) colon_notMem_of_weightless hne
    subst hcs
    exact absurd (getLast?_of_suffix hs hne) hlast
  plain b := by
    have hcolon : ':' ∉ name := notMem_of_isNameChar hname (by decide)
    have hzero : pseudoElement b (':' :: name) = 0 := by
      cases name with
      | nil => rfl
      | cons c cs => exact pseudoElement_of_ne (fun h => hcolon (h ▸ List.mem_cons_self)) cs
    rw [pieces_cons_of_zero hzero, List.map_cons,
      pieces_of_inert fun c hc => inert_pseudoElement fun h => hcolon (h ▸ hc)]

/-- **Attributes** neither, since it closes no bracket. -/
theorem passedOver_attributeToken (hname : ∀ c ∈ name, isNameChar c = true) (xs : List Char) :
    PassedOver attributeToken xs (':' :: name) where
  fence := fence_attributeToken (.inr (List.not_mem_cons_of_ne_of_not_mem (by decide)
    (notMem_of_isNameChar hname (by decide))))
  plain := pieces_pseudoClass_of_inert (fun _ => inert_attributeToken) (by decide) (by decide) hname

/-- **Marked names** neither, if the mark is not the colon. -/
theorem passedOver_markedName {mark : Char} (hcolon : ':' ≠ mark)
    (hmark : isNameChar mark = false) (hname : ∀ c ∈ name, isNameChar c = true)
    (xs : List Char) : PassedOver (markedName mark) xs (':' :: name) where
  fence := fence_markedName (by decide) xs name
  plain := pieces_pseudoClass_of_inert (fun _ => inert_markedName) hcolon hmark hname

/-- **The name of a pseudo-class** is taken whole, if its colon meets no other one. -/
theorem takenWhole_pseudoName (hlast : xs.getLast? ≠ some ':') (hne : name ≠ [])
    (hname : ∀ c ∈ name, isNameChar c = true) : TakenWhole pseudoName xs (':' :: name) where
  fence := fence_pseudoName (by decide) (fun _ => hlast) name
  ne_nil := List.cons_ne_nil _ _
  whole b := by simpa using isMarked_pseudoName.hit b name [] hne hname (by simp)

/-- **A pseudo-class** is taken whole, and closes no parenthesis. -/
theorem takenWhole_pseudoToken (hlast : xs.getLast? ≠ some ':') (hne : name ≠ [])
    (hname : ∀ c ∈ name, isNameChar c = true) : TakenWhole pseudoToken xs (':' :: name) where
  fence := fence_pseudoToken (by decide) (fun _ => hlast) (by decide)
    (.inr (List.not_mem_cons_of_ne_of_not_mem (by decide)
      (notMem_of_isNameChar hname (by decide))))
  ne_nil := List.cons_ne_nil _ _
  whole b := by
    have htoken : pseudoToken b (':' :: name ++ []) = name.length + 1 + argumentsLength [] :=
      pseudoToken_append b hne hname (by simp)
    simpa [argumentsLength] using htoken

/-- A colon that no other one follows starts a pseudo-class and no pseudo-element. -/
theorem isPseudoClass_of_ne {d : Char} (hd : d ≠ ':') (cs : List Char) :
    isPseudoClass (':' :: d :: cs) = true := by
  simp [isPseudoClass, List.isPrefixOf, hd.symm]

/-- **One more pseudo-class is counted.** -/
theorem pseudoClassCount_append (hlast : xs.getLast? ≠ some ':') (hne : name ≠ [])
    (hname : ∀ c ∈ name, isNameChar c = true) :
    pseudoClassCount (xs ++ ':' :: name) = addCapped (pseudoClassCount xs) 1 := by
  have htoken : isPseudoClass (':' :: name) = true := by
    obtain ⟨d, cs, rfl⟩ := List.exists_cons_of_ne_nil hne
    have hcolon : ':' ∉ d :: cs := notMem_of_isNameChar hname (by decide)
    exact isPseudoClass_of_ne (fun h => hcolon (h ▸ List.mem_cons_self)) cs
  rw [pseudoClassCount, (takenWhole_pseudoToken hlast hne hname).matchesOf, List.filter_append,
    List.filter_cons_of_pos htoken, List.filter_nil, List.length_append, capped_add]
  rfl

/-- A blank at the end of a text names no element. -/
theorem typeNameCount_append_singleton (xs : List Char) :
    typeNameCount (xs ++ [' ']) = typeNameCount xs := by
  have hnil : typeNameCount [] = 0 := by
    simp [typeNameCount, matchesOf, pieces, capped]
  have hle : typeNameCount xs ≤ limit := Nat.min_le_right _ _
  rw [typeNameCount_append_blank, hnil, addCapped_zero hle]

/-- One more of the classes is one more of them in all. -/
theorem addCapped_assoc (a b c : Nat) :
    addCapped a (addCapped b c) = addCapped (addCapped a b) c := by
  simp only [addCapped, capped]
  omega

/-- **A pseudo-class adds one to the classes** of any text that does not end with a colon once
its pseudo-elements are taken out. -/
theorem weigh_append_pseudoClass (hlast : (withoutPseudoElements xs).getLast? ≠ some ':')
    (hne : name ≠ []) (hname : ∀ c ∈ name, isNameChar c = true) :
    weigh (xs ++ ':' :: name) =
      { weigh xs with classes := addCapped (weigh xs).classes 1 } := by
  have hxs : xs.getLast? ≠ some ':' := fun h => hlast (getLast?_withoutPseudoElements h)
  have htext : withoutPseudoElements (xs ++ ':' :: name) =
      withoutPseudoElements xs ++ ':' :: name :=
    (passedOver_pseudoElement hxs hname).replaceAll []
  generalize hpseudo : withoutPseudoElements xs = text at hlast htext
  have hattributes := passedOver_attributeToken hname text
  have hscanned : blanked attributeToken (text ++ ':' :: name) =
      blanked attributeToken text ++ ':' :: name :=
    hattributes.replaceAll [' ']
  have hlast₂ : (blanked attributeToken text).getLast? ≠ some ':' :=
    getLast?_blanked_ne (by decide) hlast
  generalize hscan : blanked attributeToken text = scanned at hscanned hlast₂
  have hids : PassedOver idToken scanned (':' :: name) :=
    passedOver_markedName (by decide) (by decide) hname scanned
  have hclasses : ∀ xs, PassedOver classToken xs (':' :: name) :=
    passedOver_markedName (by decide) (by decide) hname
  have hlast₃ : (blanked classToken (blanked idToken scanned)).getLast? ≠ some ':' :=
    getLast?_blanked_ne (by decide) (getLast?_blanked_ne (by decide) hlast₂)
  have hnamed : blanked pseudoName (blanked classToken (blanked idToken (scanned ++ ':' :: name))) =
      blanked pseudoName (blanked classToken (blanked idToken scanned)) ++ [' '] := by
    simp only [blanked] at hlast₃ ⊢
    rw [hids.replaceAll, (hclasses _).replaceAll,
      (takenWhole_pseudoName hlast₃ hne hname).replaceAll]
  simp only [weigh, htext, hpseudo, hscanned, hscan, hnamed, countOf, hattributes.matchesOf,
    hids.matchesOf, (hclasses scanned).matchesOf, pseudoClassCount_append hlast₂ hne hname,
    typeNameCount_append_singleton, addCapped_assoc]

/-! ### Pseudo-classes with something behind them -/

/-- **A colon with a name is counted** where it is the first colon of a text. -/
theorem one_le_pseudoClassCount {d : Char} (hxs : ':' ∉ xs) (hd : isNameChar d = true)
    (ys : List Char) : 1 ≤ pseudoClassCount (xs ++ ':' :: d :: ys) := by
  have hcolon : d ≠ ':' := ne_of_isNameChar hd (by decide)
  have hlength : nameLength (d :: ys) = nameLength ys + 1 := by
    simp [nameLength, hd]
  have htoken : ∀ b, ∃ n, pseudoToken b (':' :: d :: ys) = n + 2 := fun b => by
    rw [pseudoToken, pseudoName_of_ne hcolon, hlength, if_neg (Nat.succ_ne_zero _), Nat.add_comm]
    exact ⟨_, Nat.add_right_comm _ 2 _⟩
  obtain ⟨n, hn⟩ := htoken (xs.getLast?.or none)
  -- the match begins with the colon and the first character of the name, whatever it goes on to
  have hmem : ':' :: d :: ys.take n ∈ matchesOf pseudoToken (xs ++ ':' :: d :: ys) := by
    rw [matchesOf, pieces_append_of_inert fun c hc => inert_pseudoToken fun h => hxs (h ▸ hc),
      pieces, hn, List.mem_filterMap]
    exact ⟨_, List.mem_append_right _ List.mem_cons_self, rfl⟩
  have hcount := List.length_pos_of_mem
    (List.mem_filter.2 ⟨hmem, isPseudoClass_of_ne hcolon (ys.take n)⟩)
  exact Nat.le_min.2 ⟨hcount, by decide⟩

/-- **A colon with a name adds to the classes** where it is the first colon of a text, unless a
bracket that is opened before it is closed behind. -/
theorem one_le_classes {d : Char} {ys : List Char} (hxs : ':' ∉ xs) (hd : isNameChar d = true)
    (hbracket : '[' ∉ xs ∨ ']' ∉ ys) : 1 ≤ (weigh (xs ++ ':' :: d :: ys)).classes := by
  have hcolon : d ≠ ':' := ne_of_isNameChar hd (by decide)
  have hopen : d ≠ '[' := ne_of_isNameChar hd (by decide)
  have hclose : d ≠ ']' := ne_of_isNameChar hd (by decide)
  have htext : withoutPseudoElements (xs ++ ':' :: d :: ys) =
      withoutPseudoElements xs ++ ':' :: d :: withoutPseudoElements ys := by
    refine replaceAll_append_pair (fun cs hs hne b => ?_) (fun b => pseudoElement_of_ne hcolon ys)
      (fun b => inert_pseudoElement hcolon b ys) fun b => pseudoElement_before b none
    refine fence_pseudoElement (fun hcs => ?_) colon_notMem_of_weightless hne
    exact absurd (hs.subset (hcs ▸ List.mem_singleton_self _)) hxs
  have hxs₁ : ':' ∉ withoutPseudoElements xs := notMem_replaceAll List.not_mem_nil hxs
  have hbracket₁ : '[' ∉ withoutPseudoElements xs ∨ ']' ∉ withoutPseudoElements ys :=
    hbracket.imp (notMem_replaceAll List.not_mem_nil) (notMem_replaceAll List.not_mem_nil)
  generalize withoutPseudoElements xs = xs₁ at htext hxs₁ hbracket₁
  generalize withoutPseudoElements ys = ys₁ at htext hbracket₁
  have hscanned : blanked attributeToken (xs₁ ++ ':' :: d :: ys₁) =
      blanked attributeToken xs₁ ++ ':' :: d :: blanked attributeToken ys₁ := by
    refine replaceAll_append_pair (fence_attributeToken (hbracket₁.imp_right fun h => ?_))
      (fun b => inert_attributeToken (by decide) b _) (fun b => inert_attributeToken hopen b _)
      fun b => attributeToken_before b none
    simp [h, hclose.symm]
  have hxs₂ : ':' ∉ blanked attributeToken xs₁ := notMem_replaceAll (by decide) hxs₁
  have hcount := one_le_pseudoClassCount hxs₂ hd (blanked attributeToken ys₁)
  simp only [weigh, htext, hscanned]
  exact Nat.le_min.2 ⟨Nat.le_trans hcount (Nat.le_add_left _ _), by decide⟩

/-! ### The laws -/

/-- **The suffix laws**, for texts of any kind. A pseudo-element that weighs nothing leaves the
weight of a text as it is. A colon with a name adds one to the classes and nothing else, unless
the text, less its pseudo-elements, ends with a colon. -/
theorem specificity_suffix :
    (∀ s : String, ∀ e ∈ ["::before", "::after", "::first-letter", "::first-line"],
        specificity (s ++ e) = specificity s) ∧
      ∀ s name : String, (withoutPseudoElements s.toList).getLast? ≠ some ':' →
        name.toList ≠ [] → (∀ c ∈ name.toList, isPlainChar c = true) →
          specificity (s ++ ":" ++ name) =
            { specificity s with classes := addCapped (specificity s).classes 1 } := by
  refine ⟨fun s e he => ?_, fun s name hlast hne hname => ?_⟩
  · obtain ⟨name, hname, htext⟩ :
        ∃ name ∈ weightlessPseudoElements, e.toList = ':' :: ':' :: name := by
      simp only [List.mem_cons, List.not_mem_nil, or_false] at he
      rcases he with rfl | rfl | rfl | rfl <;> exact ⟨_, by decide, rfl⟩
    rw [specificity, specificity, String.toList_append, htext, weigh_append_pseudoElement hname]
  · have hchars : ∀ c ∈ name.toList, isNameChar c = true := fun c hc =>
      Grammar.isNameChar_of_isPlainChar (hname c hc)
    simpa [specificity] using weigh_append_pseudoClass hlast hne hchars

/-- Behind an open parenthesis, an open bracket and half a pseudo-element, a pseudo-class counts
as it would behind a plain name. -/
theorem specificity_suffix_openBrackets : specificity "a:not(.b[c::first:hover" = ⟨0, 0, 3, 2⟩ := by
  have htext : specificity "a:not(.b[c::first" = ⟨0, 0, 2, 2⟩ := by decide +kernel
  have hsuffix := specificity_suffix.2 "a:not(.b[c::first" "hover" (by decide +kernel) (by decide)
    (List.all_eq_true.1 (by decide))
  rw [htext] at hsuffix
  exact hsuffix

end SelectorFinder.Selector
