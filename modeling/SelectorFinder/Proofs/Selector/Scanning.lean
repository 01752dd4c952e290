import Mathlib.Data.List.Find
import SelectorFinder.Proofs.Selector.Reading
import SelectorFinder.Selector.Scan

/-!
# Scanning a Text Part by Part

How a scan goes through a text that is put together of parts. Characters at which a pattern
never begins are passed over one by one; a match that ends where its part ends is taken
whole. Each law has the text behind the part in it, since a pattern sees what follows: the
pieces of the part come first, then those of the rest.

## Main results

* `pieces_append_of_inert`, `pieces_append_of_hit`: the scan of a part, in front of any rest.
* `pieces_append_of_fence`: the scan of a text up to a character that no match reaches over.
* `identifier_append`: the identifier at the start of a text.
-/

namespace SelectorFinder.Selector

open SelectorFinder.Text

variable {p : Pattern} {before : Option Char} {xs ys : List Char}

/-! ### Parts and the rest -/

/-- **Inert characters**: no match of the pattern begins there. -/
def Inert (p : Pattern) (c : Char) : Prop :=
  ∀ before cs, p before (c :: cs) = 0

/-- The character before a place behind some text. -/
theorem or_getLast?_cons (c : Char) (xs : List Char) (before : Option Char) :
    (c :: xs).getLast?.or before = xs.getLast?.or (some c) := by
  cases h : xs.getLast? <;> simp [List.getLast?_cons, h]

/-- **Inert characters are passed over.** -/
theorem pieces_append_of_inert (h : ∀ c ∈ xs, Inert p c) :
    pieces p before (xs ++ ys) = xs.map .plain ++ pieces p (xs.getLast?.or before) ys := by
  induction xs generalizing before with
  | nil => simp
  | cons c xs ih =>
    have hc : p before (c :: (xs ++ ys)) = 0 := h c List.mem_cons_self before _
    rw [List.cons_append, pieces, hc, ih fun d hd => h d (List.mem_cons_of_mem c hd),
      or_getLast?_cons]
    rfl

/-- **A match is taken whole**, if it ends where its part ends. -/
theorem pieces_append_of_hit {c : Char} (h : p before (c :: xs ++ ys) = xs.length + 1) :
    pieces p before (c :: xs ++ ys) = .hit c xs :: pieces p ((c :: xs).getLast?.or before) ys := by
  have hlast : ∃ d, (c :: xs).getLast? = some d :=
    ⟨_, List.getLast?_eq_some_getLast (List.cons_ne_nil c xs)⟩
  obtain ⟨d, hd⟩ := hlast
  rw [List.cons_append] at h ⊢
  rw [pieces, h]
  simp [hd]

/-- **A fence**: where no match reaches over the end of a text, the text is scanned as it is
by itself. -/
theorem pieces_append_of_fence
    (h : ∀ cs, cs <:+ xs → cs ≠ [] → ∀ b, p b (cs ++ ys) = p b cs ∧ p b cs ≤ cs.length) :
    pieces p before (xs ++ ys) = pieces p before xs ++ pieces p (xs.getLast?.or before) ys := by
  fun_induction pieces p before xs with
  | case1 => simp
  | case2 before c cs hc ih =>
    obtain ⟨heq, -⟩ := h (c :: cs) (List.suffix_refl _) (List.cons_ne_nil c cs) before
    rw [hc, List.cons_append] at heq
    rw [List.cons_append, pieces, heq,
      ih fun ds hds => h ds (hds.trans (List.suffix_cons c cs)), or_getLast?_cons]
    rfl
  | case3 before c cs n hn more ih =>
    obtain ⟨heq, hle⟩ := h (c :: cs) (List.suffix_refl _) (List.cons_ne_nil c cs) before
    have hle : n ≤ cs.length := by
      rw [hn, List.length_cons] at hle
      omega
    have hlast : (cs.drop n).getLast?.or (c :: more).getLast? = (c :: cs).getLast?.or before := by
      have hcs : c :: cs = (c :: more) ++ cs.drop n := by simp [more]
      have hsome : ∃ d, (c :: more).getLast? = some d :=
        ⟨_, List.getLast?_eq_some_getLast (List.cons_ne_nil c more)⟩
      obtain ⟨d, hd⟩ := hsome
      rw [hcs, List.getLast?_append, hd]
      cases (cs.drop n).getLast? <;> rfl
    have hsuffix : cs.drop n <:+ c :: cs := (List.drop_suffix n cs).trans (List.suffix_cons c cs)
    rw [hn, List.cons_append] at heq
    rw [List.cons_append, pieces, heq]
    simp only [List.take_append_of_le_length hle, List.drop_append_of_le_length hle,
      List.cons_append]
    rw [← hlast]
    exact congrArg _ (ih fun ds hds => h ds (hds.trans hsuffix))

/-- A place at which no match begins is passed over. -/
theorem pieces_cons_of_zero {c : Char} {cs : List Char} (h : p before (c :: cs) = 0) :
    pieces p before (c :: cs) = .plain c :: pieces p (some c) cs := by
  rw [pieces, h]

/-- The scan of a text looks at what stands before it only where the pattern does so. -/
theorem pieces_congr_before {b b' : Option Char} (h : ∀ cs, p b cs = p b' cs) :
    pieces p b xs = pieces p b' xs := by
  cases xs with
  | nil => rw [pieces, pieces]
  | cons c cs => rw [pieces, pieces, h]

/-- **Replacing adds nothing** but what is put in. -/
theorem mem_of_mem_replaceAll {replacement text : List Char} {c : Char}
    (h : c ∈ replaceAll p replacement text) : c ∈ replacement ∨ c ∈ text := by
  obtain ⟨piece, hpiece, hc⟩ := List.mem_flatMap.1 h
  rw [← joinPieces_pieces p none text]
  cases piece with
  | plain d => exact .inr (List.mem_flatMap.2 ⟨.plain d, hpiece, hc⟩)
  | hit d more => exact .inl hc

/-! ### Where the patterns of a selector text begin -/

/-- A pseudo-element starts with a colon. -/
theorem inert_pseudoElement {c : Char} (h : c ≠ ':') : Inert pseudoElement c := by
  intro before cs
  rw [pseudoElement]
  rintro cs' heq
  exact h (List.cons.inj heq).1

/-- An attribute starts with a bracket. -/
theorem inert_attributeToken {c : Char} (h : c ≠ '[') : Inert attributeToken c := by
  intro before cs
  rw [attributeToken]
  rintro cs' heq
  exact h (List.cons.inj heq).1

/-- A marked name starts with its mark. -/
theorem inert_markedName {mark c : Char} (h : c ≠ mark) : Inert (markedName mark) c := by
  intro before cs
  rw [markedName, if_neg]
  exact fun hc => h hc.1

/-- The name of a pseudo-class starts with a colon. -/
theorem inert_pseudoName {c : Char} (h : c ≠ ':') : Inert pseudoName c := by
  intro before cs
  rw [pseudoName]
  · rintro cs' heq
    exact h (List.cons.inj heq).1
  · rintro cs' heq
    exact h (List.cons.inj heq).1

/-- A pseudo-class starts with a colon, with arguments or without. -/
theorem inert_pseudoToken {c : Char} (h : c ≠ ':') : Inert pseudoToken c := by
  intro before cs
  rw [pseudoToken, inert_pseudoName h]
  rfl

/-- An identifier starts with a letter. -/
theorem inert_identifier {c : Char} (h : isAsciiLetter c = false) : Inert identifier c := by
  intro before cs
  rw [identifier]
  split
  · rfl
  · cases hw : isWordChar c with
    | false => simp [wordAt, hw, isPlainWord]
    | true => simp [wordAt, hw, h]

/-! ### Names -/

/-- **A name is as long as it is written**, where no character of a name follows. -/
theorem nameLength_append (h : ∀ c ∈ xs, isNameChar c = true)
    (hr : ∀ c ∈ ys.head?, isNameChar c = false) : nameLength (xs ++ ys) = xs.length := by
  rw [nameLength, takeWhile_stretch h hr]

/-- A pattern of a mark and the name behind it. -/
structure IsMarked (p : Pattern) (mark : Char) : Prop where
  inert : ∀ c, c ≠ mark → Inert p c
  hit : ∀ before xs ys, xs ≠ [] → (∀ c ∈ xs, isNameChar c = true) →
    (∀ c ∈ ys.head?, isNameChar c = false) → p before (mark :: xs ++ ys) = xs.length + 1

/-- A marked name is its mark and the name behind it. -/
theorem isMarked_markedName (mark : Char) : IsMarked (markedName mark) mark where
  inert _ := inert_markedName
  hit before xs ys hne hx hr := by
    have hlen : xs.length ≠ 0 := fun h => hne (List.eq_nil_of_length_eq_zero h)
    rw [List.cons_append, markedName, nameLength_append hx hr, if_pos ⟨rfl, hlen⟩, Nat.add_comm]

/-- The name of a pseudo-class is a colon and the name behind it. -/
theorem isMarked_pseudoName : IsMarked pseudoName ':' where
  inert _ := inert_pseudoName
  hit before xs ys hne hx hr := by
    have hlen : xs.length ≠ 0 := fun h => hne (List.eq_nil_of_length_eq_zero h)
    rw [List.cons_append, pseudoName, nameLength_append hx hr, if_neg hlen, Nat.add_comm]
    rintro cs heq
    obtain ⟨c, xs, rfl⟩ := List.exists_cons_of_ne_nil hne
    obtain ⟨rfl, -⟩ := List.cons.inj heq
    exact absurd (hx ':' List.mem_cons_self) (by decide)

/-! ### Brackets and parentheses -/

/-- **An attribute is taken up to its closing bracket.** -/
theorem attributeToken_append (hne : xs ≠ []) (hx : ']' ∉ xs) :
    attributeToken before ('[' :: (xs ++ [']']) ++ ys) = (xs ++ [']']).length + 1 := by
  have hlen : (xs.length == (xs ++ ']' :: ys).length) = false := by
    simp
  rw [List.cons_append, List.append_assoc, List.singleton_append, attributeToken,
    takeWhile_until hx, List.isEmpty_eq_false_iff.2 hne, hlen]
  simp

/-- No arguments stand where no parenthesis is opened. -/
theorem argumentsLength_eq_zero (h : ∀ c ∈ xs.head?, c ≠ '(') : argumentsLength xs = 0 := by
  rw [argumentsLength]
  rintro cs rfl
  exact h '(' rfl rfl

/-- Arguments are taken up to the closing parenthesis. -/
theorem argumentsLength_append (hx : ')' ∉ xs) :
    argumentsLength ('(' :: (xs ++ ')' :: ys)) = xs.length + 2 := by
  have hlen : (xs.length == (xs ++ ')' :: ys).length) = false := by
    simp
  rw [argumentsLength, takeWhile_until hx, hlen]
  rfl

/-- **A pseudo-class is taken with its arguments.** -/
theorem pseudoToken_append (before : Option Char) (hne : xs ≠ [])
    (hx : ∀ c ∈ xs, isNameChar c = true) (hr : ∀ c ∈ ys.head?, isNameChar c = false) :
    pseudoToken before (':' :: xs ++ ys) = xs.length + 1 + argumentsLength ys := by
  rw [pseudoToken, isMarked_pseudoName.hit before xs ys hne hx hr]
  simp

/-! ### Pseudo-elements -/

/-- One colon opens no pseudo-element. -/
theorem pseudoElement_of_ne {c : Char} (h : c ≠ ':') (cs : List Char) :
    pseudoElement before (':' :: c :: cs) = 0 := by
  rw [pseudoElement]
  rintro cs' heq
  exact h (List.cons.inj (List.cons.inj heq).2).1

/-- What starts a text that goes on with other characters starts the text itself. -/
theorem isPrefixOf_append_cons {name cs : List Char} {c : Char} (h : c ∉ name) :
    name.isPrefixOf (cs ++ c :: ys) = name.isPrefixOf cs := by
  rw [Bool.eq_iff_iff, List.isPrefixOf_iff_prefix, List.isPrefixOf_iff_prefix]
  refine ⟨fun hp => ?_, fun hp => hp.trans (List.prefix_append cs _)⟩
  rcases Nat.lt_or_ge cs.length name.length with hlt | hle
  · -- a longer name would have to hold the character behind the text
    have hc : cs ++ [c] <+: name := by
      refine List.prefix_of_prefix_length_le ⟨ys, by simp⟩ hp ?_
      rw [List.length_append, List.length_singleton]
      exact hlt
    exact absurd (hc.subset (by simp)) h
  · exact List.prefix_of_prefix_length_le hp (List.prefix_append cs _) hle

/-- **A fence** for pseudo-elements is a character that is no part of any name: none goes on
behind it, and a lone colon opens none with it. -/
theorem fence_pseudoElement {x : Char} {cs : List Char}
    (hone : cs = [':'] → pseudoElement before (':' :: x :: ys) = 0)
    (hnames : ∀ name ∈ weightlessPseudoElements, x ∉ name) (hne : cs ≠ []) :
    pseudoElement before (cs ++ x :: ys) = pseudoElement before cs ∧
      pseudoElement before cs ≤ cs.length := by
  obtain ⟨c, cs, rfl⟩ := List.exists_cons_of_ne_nil hne
  by_cases hc : c = ':'
  · subst hc
    cases cs with
    | nil => exact ⟨hone rfl, Nat.zero_le _⟩
    | cons d cs =>
      by_cases hd : d = ':'
      · subst hd
        have hfind : (weightlessPseudoElements.find? fun name => name.isPrefixOf (cs ++ x :: ys)) =
            weightlessPseudoElements.find? fun name => name.isPrefixOf cs :=
          List.find?_congr fun name hm => isPrefixOf_append_cons (hnames name hm)
        rw [List.cons_append, List.cons_append, pseudoElement, pseudoElement, hfind]
        refine ⟨rfl, ?_⟩
        split
        next name hname =>
          have hprefix : name.isPrefixOf cs = true := by simpa using List.find?_some hname
          have hlen := (List.isPrefixOf_iff_prefix.1 hprefix).length_le
          simp only [List.length_cons]
          omega
        next => exact Nat.zero_le _
      · rw [List.cons_append, List.cons_append, pseudoElement_of_ne hd, pseudoElement_of_ne hd]
        exact ⟨rfl, Nat.zero_le _⟩
  · rw [List.cons_append, inert_pseudoElement hc, inert_pseudoElement hc]
    exact ⟨rfl, Nat.zero_le _⟩

/-- What stands before a place is of no matter for pseudo-elements. -/
theorem pseudoElement_before (b b' : Option Char) (cs : List Char) :
    pseudoElement b cs = pseudoElement b' cs := by
  unfold pseudoElement
  split <;> rfl

/-! ### Identifiers -/

/-- Letters and digits are part of a word. -/
theorem isWordChar_of_isAsciiAlphanumeric {c : Char} (h : isAsciiAlphanumeric c = true) :
    isWordChar c = true := by
  have hlt : c.toNat < 128 := lt_of_isPlainChar (by simp [isPlainChar, h])
  have hc : c.isAlphanum = true := h
  rw [isWordChar_of_lt hlt, hc, Bool.true_or]

/-- What may not stand in a name may not stand in a word. -/
theorem isWordChar_of_isNameChar {c : Char} (h : isNameChar c = false) : isWordChar c = false :=
  (Bool.or_eq_false_iff.1 h).1

/-- A plain word is made of letters and digits, and there are some. -/
theorem isPlainWord_iff {word : List Char} :
    isPlainWord word = true ↔ word ≠ [] ∧ ∀ c ∈ word, isAsciiAlphanumeric c = true := by
  simp [isPlainWord]

/-- The word at the start of a text is taken up to the first character of no word. -/
theorem wordAt_append (hx : isPlainWord xs = true) (hr : ∀ c ∈ ys.head?, isWordChar c = false) :
    wordAt (xs ++ ys) = xs :=
  takeWhile_stretch
    (fun c hc => isWordChar_of_isAsciiAlphanumeric ((isPlainWord_iff.1 hx).2 c hc)) hr

/-- What goes on behind a word is a hyphen or no name at all. -/
theorem isWordChar_head?_hyphenated (words : List (List Char))
    (hr : ∀ c ∈ ys.head?, isNameChar c = false) :
    ∀ c ∈ (words.flatMap ('-' :: ·) ++ ys).head?, isWordChar c = false := by
  cases words with
  | nil => exact fun c hc => isWordChar_of_isNameChar (hr c hc)
  | cons w words =>
    rintro c ⟨⟩
    exact isWordChar_hyphen

/-- **Hyphenated words are taken** as far as they go. -/
theorem hyphenatedLength_append {words : List (List Char)}
    (hw : ∀ w ∈ words, isPlainWord w = true) (hr : ∀ c ∈ ys.head?, isNameChar c = false) :
    hyphenatedLength (words.flatMap ('-' :: ·) ++ ys) = (words.flatMap ('-' :: ·)).length := by
  induction words with
  | nil =>
    rw [List.flatMap_nil, List.nil_append, hyphenatedLength, List.length_nil]
    rintro cs rfl
    exact absurd (hr '-' rfl) (by decide)
  | cons w words ih =>
    obtain ⟨hword, hwords⟩ := List.forall_mem_cons.1 hw
    have hat := wordAt_append hword (isWordChar_head?_hyphenated words hr)
    have ih := ih hwords
    rw [List.flatMap_cons, List.cons_append, List.cons_append, List.append_assoc, hyphenatedLength,
      hat, if_pos hword, List.drop_left, ih]
    simp only [List.length_cons, List.length_append]
    omega

/-- **An identifier is taken whole**, where no character of a word stands before it and none
of a name behind. -/
theorem identifier_append {first : List Char} {words : List (List Char)}
    (hb : ∀ c ∈ before, isWordChar c = false) (hf : isPlainWord first = true)
    (hl : ∀ c ∈ first.head?, isAsciiLetter c = true) (hw : ∀ w ∈ words, isPlainWord w = true)
    (hr : ∀ c ∈ ys.head?, isNameChar c = false) :
    identifier before (first ++ words.flatMap ('-' :: ·) ++ ys) =
      (first ++ words.flatMap ('-' :: ·)).length := by
  have hbefore : before.any isWordChar = false := by
    cases before with
    | none => rfl
    | some c => exact hb c rfl
  have hhead : first.head?.any isAsciiLetter = true := by
    obtain ⟨c, cs, rfl⟩ := List.exists_cons_of_ne_nil (isPlainWord_iff.1 hf).1
    exact hl c rfl
  rw [List.append_assoc, identifier, hbefore,
    wordAt_append hf (isWordChar_head?_hyphenated words hr)]
  simp [hf, hhead, hyphenatedLength_append hw hr]

end SelectorFinder.Selector
