import SelectorFinder.Proofs.Selector.Scanning

/-!
# Fences between Texts

Where one text is put behind another, the scan of the first may be disturbed: a name may go on,
two colons may meet, a bracket that was open may be closed. A fence says that nothing of the
kind happens, that every match in the first text ends in it and is the match that was there
before. Then the pieces of the first text stay what they are, and those of the second follow.

What makes a fence depends on the pattern only through the first character of what follows
and, for the two patterns that go on to a closing character, through that character.

## Main results

* `fence_attributeToken`, `fence_markedName`, `fence_pseudoName`, `fence_pseudoToken`: where
  the patterns of a selector text have a fence.
* `PassedOver.matchesOf`, `PassedOver.replaceAll`: a text without matches behind a fence.
* `TakenWhole.matchesOf`, `TakenWhole.replaceAll`: a single match behind a fence.
-/

namespace SelectorFinder.Selector

open SelectorFinder.Text

variable {p : Pattern} {before : Option Char} {x : Char} {xs ys cs : List Char}

/-- **A fence**: from no place of the first text on does it make a difference to the pattern
that the second text follows, and no match reaches into it. -/
def Fence (p : Pattern) (xs ys : List Char) : Prop :=
  ∀ cs, cs <:+ xs → cs ≠ [] → ∀ b, p b (cs ++ ys) = p b cs ∧ p b cs ≤ cs.length

/-- The last character of a text is that of each part at its end. -/
theorem getLast?_of_suffix (h : cs <:+ xs) (hne : cs ≠ []) : xs.getLast? = cs.getLast? := by
  obtain ⟨front, rfl⟩ := h
  rw [List.getLast?_append, List.getLast?_eq_some_getLast hne, Option.some_or]

/-- Behind a mark that is not the last character, something follows. -/
theorem ne_nil_of_suffix {mark : Char} (h : mark :: cs <:+ xs) (hlast : xs.getLast? ≠ some mark) :
    cs ≠ [] := by
  rintro rfl
  exact hlast (getLast?_of_suffix h (List.cons_ne_nil _ _))

/-- Where all matches begin with a mark, only these have to be looked at. -/
theorem fence_of_mark {mark : Char} (hinert : ∀ c, c ≠ mark → Inert p c)
    (hmark : ∀ cs, mark :: cs <:+ xs → ∀ b,
      p b (mark :: cs ++ ys) = p b (mark :: cs) ∧ p b (mark :: cs) ≤ cs.length + 1) :
    Fence p xs ys := by
  intro cs hs hne b
  obtain ⟨c, cs, rfl⟩ := List.exists_cons_of_ne_nil hne
  by_cases hc : c = mark
  · subst hc
    exact hmark cs hs b
  · rw [List.cons_append, hinert c hc, hinert c hc]
    exact ⟨rfl, Nat.zero_le _⟩

/-! ### Brackets and parentheses that are closed, or left open -/

/-- An attribute that is closed is as long as what its brackets hold, if that is not empty. -/
theorem attributeToken_of_mem (h : ']' ∈ cs) :
    attributeToken before ('[' :: cs) =
      if (cs.takeWhile (fun c => decide (c ≠ ']'))).isEmpty then 0
      else (cs.takeWhile (fun c => decide (c ≠ ']'))).length + 2 := by
  simp only [attributeToken, beq_false_of_ne (Nat.ne_of_lt (length_takeWhile_ne_lt h)),
    Bool.or_false]

/-- An attribute that is not closed is none. -/
theorem attributeToken_of_notMem (h : ']' ∉ cs) : attributeToken before ('[' :: cs) = 0 := by
  simp only [attributeToken, takeWhile_ne_of_notMem h, beq_self_eq_true, Bool.or_true, if_true]

/-- **Attributes have a fence** where no bracket is opened before it or none is closed behind. -/
theorem fence_attributeToken (h : '[' ∉ xs ∨ ']' ∉ ys) : Fence attributeToken xs ys := by
  refine fence_of_mark (fun _ => inert_attributeToken) fun cs hs b => ?_
  have hys : ']' ∉ ys := h.resolve_left fun hnot => hnot (hs.subset List.mem_cons_self)
  rw [List.cons_append]
  by_cases hclosed : ']' ∈ cs
  · have hlt := length_takeWhile_ne_lt hclosed
    rw [attributeToken_of_mem (List.mem_append_left _ hclosed), attributeToken_of_mem hclosed,
      takeWhile_ne_append hclosed]
    refine ⟨rfl, ?_⟩
    split <;> omega
  · have hopen : ']' ∉ cs ++ ys := by simp [hclosed, hys]
    rw [attributeToken_of_notMem hopen, attributeToken_of_notMem hclosed]
    exact ⟨rfl, Nat.zero_le _⟩

/-- What stands before a place is of no matter for attributes. -/
theorem attributeToken_before (b b' : Option Char) (cs : List Char) :
    attributeToken b cs = attributeToken b' cs := by
  unfold attributeToken
  split <;> rfl

/-- Arguments that are closed are as long as what their parentheses hold. -/
theorem argumentsLength_of_mem (h : ')' ∈ cs) :
    argumentsLength ('(' :: cs) = (cs.takeWhile (fun c => decide (c ≠ ')'))).length + 2 := by
  simp only [argumentsLength, beq_false_of_ne (Nat.ne_of_lt (length_takeWhile_ne_lt h)),
    Bool.false_eq_true, if_false]

/-- Arguments that are not closed are none. -/
theorem argumentsLength_of_notMem (h : ')' ∉ cs) : argumentsLength ('(' :: cs) = 0 := by
  simp only [argumentsLength, takeWhile_ne_of_notMem h, beq_self_eq_true, if_true]

/-- **Arguments have a fence** where no parenthesis is opened before it or none is closed
behind, and none is opened right there. -/
theorem argumentsLength_append_cons (hx : x ≠ '(') (h : '(' ∉ cs ∨ ')' ∉ x :: ys) :
    argumentsLength (cs ++ x :: ys) = argumentsLength cs ∧ argumentsLength cs ≤ cs.length := by
  cases cs with
  | nil =>
    refine ⟨argumentsLength_eq_zero ?_, Nat.zero_le _⟩
    rintro c ⟨⟩
    exact hx
  | cons c cs =>
    rw [List.cons_append]
    by_cases hc : c = '('
    · subst hc
      have hys : ')' ∉ x :: ys := h.resolve_left fun hnot => hnot List.mem_cons_self
      by_cases hclosed : ')' ∈ cs
      · have hlt := length_takeWhile_ne_lt hclosed
        rw [argumentsLength_of_mem (List.mem_append_left _ hclosed),
          argumentsLength_of_mem hclosed, takeWhile_ne_append hclosed, List.length_cons]
        exact ⟨rfl, by omega⟩
      · have hopen : ')' ∉ cs ++ x :: ys := by
          rw [List.mem_append, not_or]
          exact ⟨hclosed, hys⟩
        rw [argumentsLength_of_notMem hopen, argumentsLength_of_notMem hclosed]
        exact ⟨rfl, Nat.zero_le _⟩
    · have hzero : ∀ es, argumentsLength (c :: es) = 0 := fun es =>
        argumentsLength_eq_zero (by simpa using hc)
      rw [hzero, hzero]
      exact ⟨rfl, Nat.zero_le _⟩

/-! ### Names -/

/-- A name ends at a character that is no part of any. -/
theorem nameLength_append_cons (hx : isNameChar x = false) (cs ys : List Char) :
    nameLength (cs ++ x :: ys) = nameLength cs :=
  congrArg List.length (takeWhile_append_cons hx cs ys)

/-- A name is not longer than the text that it starts. -/
theorem nameLength_le (cs : List Char) : nameLength cs ≤ cs.length :=
  (List.takeWhile_prefix _).length_le

/-- **Marked names have a fence** where the name ends. -/
theorem fence_markedName {mark : Char} (hx : isNameChar x = false) (xs ys : List Char) :
    Fence (markedName mark) xs (x :: ys) := by
  intro cs _ hne b
  obtain ⟨c, cs, rfl⟩ := List.exists_cons_of_ne_nil hne
  have hle := nameLength_le cs
  simp only [List.cons_append, markedName, nameLength_append_cons hx, List.length_cons, true_and]
  split <;> omega

/-- A colon that no other one follows stands before the name of a pseudo-class, or for itself. -/
theorem pseudoName_of_ne (hx : x ≠ ':') (ys : List Char) :
    pseudoName before (':' :: x :: ys) =
      if nameLength (x :: ys) = 0 then 0 else 1 + nameLength (x :: ys) := by
  rw [pseudoName]
  rintro cs heq
  exact hx (List.cons.inj heq).1

/-- **The names of pseudo-classes have a fence** where the name ends and no two colons meet. -/
theorem fence_pseudoName (hx : isNameChar x = false) (hlast : x = ':' → xs.getLast? ≠ some ':')
    (ys : List Char) : Fence pseudoName xs (x :: ys) := by
  refine fence_of_mark (fun _ => inert_pseudoName) fun cs hs b => ?_
  cases cs with
  | nil =>
    have hcolon : x ≠ ':' := fun h => ne_nil_of_suffix hs (hlast h) rfl
    have hname : nameLength (x :: ys) = 0 := nameLength_append_cons hx [] ys
    rw [List.singleton_append, pseudoName_of_ne hcolon, hname]
    exact ⟨rfl, Nat.zero_le _⟩
  | cons d ds =>
    by_cases hd : d = ':'
    · subst hd
      have hle := nameLength_le ds
      simp only [List.cons_append, pseudoName, nameLength_append_cons hx, List.length_cons,
        true_and]
      split <;> omega
    · have hle := nameLength_le (d :: ds)
      rw [List.cons_append, List.cons_append, pseudoName_of_ne hd, pseudoName_of_ne hd,
        ← List.cons_append, nameLength_append_cons hx]
      refine ⟨rfl, ?_⟩
      split <;> omega

/-- **Pseudo-classes have a fence** where their names have one and their arguments, too. -/
theorem fence_pseudoToken (hx : isNameChar x = false) (hlast : x = ':' → xs.getLast? ≠ some ':')
    (hopen : x ≠ '(') (h : '(' ∉ xs ∨ ')' ∉ x :: ys) : Fence pseudoToken xs (x :: ys) := by
  intro cs hs hne b
  obtain ⟨heq, hle⟩ := fence_pseudoName hx hlast ys cs hs hne b
  rw [pseudoToken, pseudoToken, heq]
  cases hn : pseudoName b cs with
  | zero => exact ⟨rfl, Nat.zero_le _⟩
  | succ n =>
    rw [hn] at hle
    have hargs : '(' ∉ cs.drop (n + 1) ∨ ')' ∉ x :: ys :=
      h.imp_left fun hnot hm => hnot (hs.subset ((List.drop_suffix _ _).subset hm))
    obtain ⟨harg, hlen⟩ := argumentsLength_append_cons hopen hargs
    simp only [List.drop_append_of_le_length hle, harg, true_and]
    rw [List.length_drop] at hlen
    omega

/-! ### What follows a fence -/

/-- Inert characters are pieces of their own. -/
theorem pieces_of_inert (h : ∀ c ∈ ys, Inert p c) : pieces p before ys = ys.map .plain := by
  have hnil : ∀ b, pieces p b [] = [] := fun b => by rw [pieces]
  have happend :
      pieces p before (ys ++ []) = ys.map .plain ++ pieces p (ys.getLast?.or before) [] :=
    pieces_append_of_inert h
  simpa [hnil] using happend

/-- **Two characters at which no match begins**, behind a fence, stay where they are, and what
follows them is scanned like the start of a text. -/
theorem replaceAll_append_pair {c d : Char} {replacement : List Char}
    (hfence : Fence p xs (c :: d :: ys)) (hc : ∀ b, p b (c :: d :: ys) = 0)
    (hd : ∀ b, p b (d :: ys) = 0) (hbefore : ∀ b cs, p b cs = p none cs) :
    replaceAll p replacement (xs ++ c :: d :: ys) =
      replaceAll p replacement xs ++ c :: d :: replaceAll p replacement ys := by
  rw [replaceAll, pieces_append_of_fence hfence, pieces_cons_of_zero (hc _),
    pieces_cons_of_zero (hd _), pieces_congr_before (hbefore (some d)), List.flatMap_append]
  rfl

/-- **A text is passed over** by a pattern, behind another one: no match begins in it. -/
structure PassedOver (p : Pattern) (xs ys : List Char) : Prop where
  fence : Fence p xs ys
  plain : ∀ b, pieces p b ys = ys.map .plain

/-- **A text is taken whole** by a pattern, behind another one: it is a single match. -/
structure TakenWhole (p : Pattern) (xs ys : List Char) : Prop where
  fence : Fence p xs ys
  ne_nil : ys ≠ []
  whole : ∀ b, p b ys = ys.length

namespace PassedOver

/-- Nothing is matched in what is passed over. -/
theorem matchesOf (h : PassedOver p xs ys) : matchesOf p (xs ++ ys) = matchesOf p xs := by
  rw [Selector.matchesOf, pieces_append_of_fence h.fence, h.plain, List.filterMap_append,
    List.filterMap_map, Selector.matchesOf]
  simp [Function.comp_def, Piece.match?]

/-- What is passed over stays, whatever is replaced in front of it. -/
theorem replaceAll (h : PassedOver p xs ys) (replacement : List Char) :
    replaceAll p replacement (xs ++ ys) = replaceAll p replacement xs ++ ys := by
  rw [Selector.replaceAll, pieces_append_of_fence h.fence, h.plain, List.flatMap_append,
    List.flatMap_map, Selector.replaceAll]
  simp

end PassedOver

namespace TakenWhole

/-- What is taken whole is one match by itself. -/
theorem pieces (h : TakenWhole p xs ys) :
    ∃ c cs, ys = c :: cs ∧ ∀ b, pieces p b ys = [.hit c cs] := by
  obtain ⟨c, cs, rfl⟩ := List.exists_cons_of_ne_nil h.ne_nil
  refine ⟨c, cs, rfl, fun b => ?_⟩
  have hwhole := h.whole b
  rw [List.length_cons] at hwhole
  simp [Selector.pieces, hwhole]

/-- What is taken whole is the last match. -/
theorem matchesOf (h : TakenWhole p xs ys) :
    matchesOf p (xs ++ ys) = matchesOf p xs ++ [ys] := by
  obtain ⟨c, cs, hys, hpieces⟩ := h.pieces
  rw [Selector.matchesOf, pieces_append_of_fence h.fence, hpieces, List.filterMap_append,
    Selector.matchesOf, hys]
  rfl

/-- What is taken whole is replaced at the end. -/
theorem replaceAll (h : TakenWhole p xs ys) (replacement : List Char) :
    replaceAll p replacement (xs ++ ys) = replaceAll p replacement xs ++ replacement := by
  obtain ⟨c, cs, -, hpieces⟩ := h.pieces
  rw [Selector.replaceAll, pieces_append_of_fence h.fence, hpieces, List.flatMap_append,
    Selector.replaceAll]
  simp

end TakenWhole

end SelectorFinder.Selector
