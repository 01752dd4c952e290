import SelectorFinder.Proofs.Selector.Grammar
import SelectorFinder.Proofs.Selector.Scanning
import SelectorFinder.Selector.Specificity

/-!
# Scanned Weights Are Structural Counts

The weight of a text is found by scanning, without knowledge of its structure. For a selector
of the grammar it agrees with what is counted on the structure: each step of the scan takes
exactly the lexemes that it is meant for, whatever the order in which they are written, and
leaves the others as they are for the next step.

## Main results

* `pieces_flatMap`: a scan goes through lexemes one by one.
* `Takes.matchesOf`, `Takes.replaceAll`: what a pattern finds and leaves that takes certain
  lexemes whole.
* `weigh_lexemes`, `specificity_render`: the weight of a selector is given by its counts.
-/

namespace SelectorFinder.Selector.Grammar

open SelectorFinder.Text

/-! ### Lexemes by their kind -/

namespace Lexeme

/-- Whether a lexeme names a type. -/
def isTag : Lexeme → Bool
  | tag _ => true
  | _ => false

/-- Whether a lexeme is a pseudo-element. -/
def isPseudoElement : Lexeme → Bool
  | pseudoElement _ => true
  | _ => false

/-- Only tags name a type. -/
theorem isTag_iff {l : Lexeme} : l.isTag = true ↔ ∃ t, l = tag t := by
  cases l <;> simp [isTag]

/-- Only a name behind the mark has the mark. -/
theorem hasMark_iff {m : Mark} {l : Lexeme} : l.hasMark m = true ↔ ∃ name, l = named m name := by
  cases l <;> simp [hasMark]

/-- Only attributes are attribute lexemes. -/
theorem isAttribute_iff {l : Lexeme} :
    l.isAttribute = true ↔ ∃ name value, l = attr name value := by
  cases l <;> simp [isAttribute]

end Lexeme

/-! ### The characters of a lexeme -/

/-- A plain character may stand in a name. -/
theorem isNameChar_of_isPlainChar {c : Char} (h : isPlainChar c = true) : isNameChar c = true := by
  simp only [isPlainChar, Bool.or_eq_true, beq_iff_eq] at h
  rcases h with (h | rfl) | rfl
  · rw [isNameChar, isWordChar_of_isAsciiAlphanumeric h, Bool.true_or]
  · exact isNameChar_hyphen
  · decide

/-- Letters and digits are plain. -/
theorem isPlainChar_of_isAsciiAlphanumeric {c : Char} (h : isAsciiAlphanumeric c = true) :
    isPlainChar c = true := by
  simp [isPlainChar, h]

/-- A name holds no character that is not plain. -/
theorem Name.notMem_chars (name : Name) {x : Char} (hx : isPlainChar x = false) :
    x ∉ name.chars := by
  intro h
  simp [name.plain x h] at hx

/-- A name starts with a character, and that is no colon. -/
theorem Name.exists_cons (name : Name) : ∃ c cs, name.chars = c :: cs ∧ c ≠ ':' := by
  obtain ⟨c, cs, hcs⟩ := List.exists_cons_of_ne_nil name.ne_nil
  have hcolon : ':' ∉ name.chars := name.notMem_chars (by decide)
  exact ⟨c, cs, hcs, fun hc => hcolon (by simp [hcs, hc])⟩

/-- A tag has plain characters only. -/
theorem Tag.plain (t : Tag) : ∀ c ∈ t.chars, isPlainChar c = true := by
  refine List.forall_mem_append.2 ⟨fun c hc => ?_, fun c hc => ?_⟩
  · exact isPlainChar_of_isAsciiAlphanumeric (t.first.alphanumeric c hc)
  · obtain ⟨w, -, hc⟩ := List.mem_flatMap.1 hc
    rcases List.mem_cons.1 hc with rfl | hc
    · decide
    · exact isPlainChar_of_isAsciiAlphanumeric (w.alphanumeric c hc)

/-- Digits are plain characters. -/
theorem Digits.plain (d : Digits) : ∀ c ∈ d.chars, isPlainChar c = true := by
  intro c hc
  have hdigit : c.isDigit = true := d.digit c hc
  exact isPlainChar_of_isAsciiAlphanumeric (by simp [isAsciiAlphanumeric, Char.isAlphanum, hdigit])

/-- A digit is no letter. -/
theorem Digits.isAsciiLetter_eq_false (d : Digits) : ∀ c ∈ d.chars, isAsciiLetter c = false := by
  intro c hc
  exact forall_ascii (P := fun c => c.isDigit → isAsciiLetter c = false) (by decide)
    (lt_of_isPlainChar (d.plain c hc)) (d.digit c hc)

/-- The characters that stand between words and names. -/
def breakChars : List Char :=
  [',', ' ', '>', '+', '~', '(', ')']

/-- A break is made of the characters that stand between words and names. -/
theorem Lexeme.mem_breakChars {l : Lexeme} (h : l.isBreak = true) :
    ∀ c ∈ l.chars, c ∈ breakChars := by
  cases l with
  | opening => exact List.forall_mem_singleton.2 (by decide)
  | closing => exact List.forall_mem_singleton.2 (by decide)
  | gap g => exact fun c hc => List.mem_append_left ['(', ')'] (g.plain c hc)
  | _ => simp [isBreak] at h

/-- No character of a break may stand in a name. -/
theorem isNameChar_of_mem_breakChars : ∀ c ∈ breakChars, isNameChar c = false :=
  List.all_iff_forall_prop.1 (by decide)

/-- **A mark, a bracket or a parenthesis** is found only where it is written. -/
theorem Lexeme.notMem_chars {l : Lexeme} {x : Char} (hplain : isPlainChar x = false)
    (hbreak : l.isBreak = true → x ∉ l.chars) (hmark : ∀ m, l.hasMark m = true → x ≠ m.char)
    (ha : l.isAttribute = false) (he : l.isPseudoElement = false) : x ∉ l.chars := by
  have hnot : ∀ cs : List Char, (∀ c ∈ cs, isPlainChar c = true) → x ∉ cs := by
    intro cs hcs hx
    simp [hcs x hx] at hplain
  cases l with
  | tag t => exact hnot _ t.plain
  | named m name =>
    exact List.not_mem_cons_of_ne_of_not_mem (hmark m (by simp [hasMark])) (hnot _ name.plain)
  | attr name value => simp [isAttribute] at ha
  | pseudoElement e => simp [isPseudoElement] at he
  | number digits => exact hnot _ digits.plain
  | opening | closing | gap _ => exact hbreak rfl

/-! ### A text as it is between two steps -/

/-- A lexeme once the pseudo-elements are taken out. -/
def Lexeme.stripped : Lexeme → List Char
  | attr name value => '[' :: (withoutPseudoElements (attributeChars name value) ++ [']'])
  | pseudoElement _ => []
  | l => l.chars

/-- A lexeme once attributes and the names with certain marks are blanked out, too. -/
def Lexeme.remaining (counted : List Mark) : Lexeme → List Char
  | attr _ _ => [' ']
  | pseudoElement _ => []
  | named m name => if m ∈ counted then [' '] else m.char :: name.chars
  | l => l.chars

/-- **Readings of lexemes** that keep words apart: what is no word starts with no character
of a name, and breaks end with no character of a word. -/
structure KeepsApart (r : Lexeme → List Char) : Prop where
  head : ∀ l, l.isWord = false → ∀ c ∈ (r l).head?, isNameChar c = false
  last : ∀ l, l.isBreak = true → ∃ c, (r l).getLast? = some c ∧ isWordChar c = false

/-- **Behind a lexeme that is no break** no character of a name follows. -/
theorem KeepsApart.head_flatMap {r : Lexeme → List Char} (hr : KeepsApart r) {l : Lexeme}
    {ls : List Lexeme} (hc : (l :: ls).IsChain Lexeme.MayPrecede) (hl : l.isBreak = false) :
    ∀ c ∈ (ls.flatMap r).head?, isNameChar c = false := by
  induction ls generalizing l with
  | nil => simp
  | cons l' ls ih =>
    obtain ⟨hprecede, hc⟩ := List.isChain_cons_cons.1 hc
    have hword : l'.isWord = false := by
      refine Bool.eq_false_iff.2 fun hw => ?_
      simp [hprecede hw] at hl
    rw [List.flatMap_cons]
    refine forall_mem_head?_append (hr.head l' hword) fun hnil => ih hc ?_
    -- a lexeme of which nothing is left is no break
    refine Bool.eq_false_iff.2 fun hb => ?_
    obtain ⟨d, hd, -⟩ := hr.last l' hb
    simp [hnil] at hd

/-- **A scan goes through lexemes one by one**, if it does so for each lexeme, with no
character of a word in front of a word and none of a name behind what is no break. -/
theorem pieces_flatMap {p : Pattern} {r : Lexeme → List Char} {g : Lexeme → List Piece}
    (hr : KeepsApart r)
    (hstep : ∀ l before rest, (l.isWord = true → ∀ c ∈ before, isWordChar c = false) →
      (l.isBreak = false → ∀ c ∈ rest.head?, isNameChar c = false) →
      pieces p before (r l ++ rest) = g l ++ pieces p ((r l).getLast?.or before) rest)
    {ls : List Lexeme} (hc : ls.IsChain Lexeme.MayPrecede) {before : Option Char}
    (hb : ∀ l ∈ ls.head?, l.isWord = true → ∀ c ∈ before, isWordChar c = false) :
    pieces p before (ls.flatMap r) = ls.flatMap g := by
  induction ls generalizing before with
  | nil => rw [List.flatMap_nil, List.flatMap_nil, pieces]
  | cons l ls ih =>
    have hrest := hstep l before (ls.flatMap r) (hb l rfl) fun hl => hr.head_flatMap hc hl
    rw [List.flatMap_cons, List.flatMap_cons, hrest, ih hc.tail]
    intro l' hl' hword c hm
    obtain ⟨d, hd, hnot⟩ := hr.last l ((List.isChain_cons.1 hc).1 l' hl' hword)
    obtain rfl : d = c := by simpa [hd] using hm
    exact hnot

/-! ### Scans that take lexemes whole -/

/-- Characters as one match, or as characters at which none begins. -/
def asPieces (whole : Bool) : List Char → List Piece
  | [] => []
  | c :: cs => if whole then [.hit c cs] else (c :: cs).map .plain

/-- Where nothing is matched, every character stays for itself. -/
theorem asPieces_false (cs : List Char) : asPieces false cs = cs.map .plain := by
  cases cs <;> rfl

/-- **A pattern takes lexemes**: those that it is meant for are taken whole, and in no other
lexeme does a match begin. -/
structure Takes (p : Pattern) (q : Lexeme → Bool) (r : Lexeme → List Char) : Prop where
  keepsApart : KeepsApart r
  inert : ∀ l, q l = false → ∀ c ∈ r l, Inert p c
  ne_nil : ∀ l, q l = true → r l ≠ []
  isBreak : ∀ l, q l = true → l.isBreak = false
  whole : ∀ l before rest, q l = true →
    (l.isWord = true → ∀ c ∈ before, isWordChar c = false) →
    (∀ c ∈ rest.head?, isNameChar c = false) → p before (r l ++ rest) = (r l).length

namespace Takes

variable {p : Pattern} {q : Lexeme → Bool} {r : Lexeme → List Char} {ls : List Lexeme}

/-- **A pattern runs over a chain of lexemes** one by one: it matches each of those that it takes,
whole, and nothing else. -/
theorem pieces_flatMap (h : Takes p q r) (hc : ls.IsChain Lexeme.MayPrecede) :
    pieces p none (ls.flatMap r) = ls.flatMap fun l => asPieces (q l) (r l) := by
  refine Grammar.pieces_flatMap h.keepsApart (fun l before rest hb hrest => ?_) hc (by simp)
  cases hq : q l with
  | false =>
    rw [pieces_append_of_inert (h.inert l hq), asPieces_false]
  | true =>
    have hwhole := h.whole l before rest hq hb (hrest (h.isBreak l hq))
    obtain ⟨c, cs, hcs⟩ := List.exists_cons_of_ne_nil (h.ne_nil l hq)
    rw [hcs] at hwhole ⊢
    exact pieces_append_of_hit hwhole

/-- **The matches** are the lexemes that are taken. -/
theorem matchesOf (h : Takes p q r) (hc : ls.IsChain Lexeme.MayPrecede) :
    matchesOf p (ls.flatMap r) = (ls.filter q).map r := by
  rw [Selector.matchesOf, h.pieces_flatMap hc]
  clear hc
  induction ls with
  | nil => rfl
  | cons l ls ih =>
    rw [List.flatMap_cons, List.filterMap_append, ih]
    cases hq : q l with
    | false =>
      simp [hq, asPieces_false, List.filterMap_map, Function.comp_def, Piece.match?]
    | true =>
      obtain ⟨c, cs, hcs⟩ := List.exists_cons_of_ne_nil (h.ne_nil l hq)
      simp [hcs, hq, asPieces, Piece.match?]

/-- **What is left** of the other lexemes when those are replaced is all there was. -/
theorem replaceAll (h : Takes p q r) (hc : ls.IsChain Lexeme.MayPrecede)
    (replacement : List Char) :
    replaceAll p replacement (ls.flatMap r) =
      ls.flatMap fun l => if q l then replacement else r l := by
  rw [Selector.replaceAll, h.pieces_flatMap hc, List.flatMap_assoc]
  congr 1
  funext l
  cases hq : q l with
  | false => simp [asPieces_false, List.flatMap_map]
  | true =>
    obtain ⟨c, cs, hcs⟩ := List.exists_cons_of_ne_nil (h.ne_nil l hq)
    simp [hcs, asPieces]

/-- There are as many matches as lexemes that are taken. -/
theorem countOf (h : Takes p q r) (hc : ls.IsChain Lexeme.MayPrecede) :
    countOf p (ls.flatMap r) = Weight.capped (ls.countP q) := by
  rw [Selector.countOf, h.matchesOf hc, List.length_map, List.countP_eq_length_filter]

end Takes

/-! ### Words are kept apart -/

/-- Lexemes as they are written keep words apart. -/
theorem keepsApart_chars : KeepsApart Lexeme.chars where
  head l hl c hc := by
    cases l with
    | tag t => simp [Lexeme.isWord] at hl
    | number digits => simp [Lexeme.isWord] at hl
    | named m name =>
      obtain rfl := Option.some.inj hc
      cases m <;> decide
    | attr name value =>
      obtain rfl := Option.some.inj hc
      decide
    | pseudoElement e =>
      obtain rfl := Option.some.inj hc
      decide
    | opening | closing | gap _ =>
      exact isNameChar_of_mem_breakChars c
        (Lexeme.mem_breakChars rfl c (List.mem_of_mem_head? hc))
  last l hl := by
    have hne : l.chars ≠ [] := by
      cases l with
      | opening => exact List.cons_ne_nil _ _
      | closing => exact List.cons_ne_nil _ _
      | gap g => exact g.ne_nil
      | _ => simp [Lexeme.isBreak] at hl
    refine ⟨l.chars.getLast hne, List.getLast?_eq_some_getLast hne, ?_⟩
    exact isWordChar_of_isNameChar (isNameChar_of_mem_breakChars _
      (Lexeme.mem_breakChars hl _ (List.getLast_mem hne)))

/-- A reading that changes only lexemes that are no breaks, and puts no character of a name
first there, keeps words apart. -/
theorem KeepsApart.of_chars {r : Lexeme → List Char}
    (h : ∀ l, r l = l.chars ∨ l.isBreak = false ∧ ∀ c ∈ (r l).head?, isNameChar c = false) :
    KeepsApart r where
  head l hl c hc := by
    rcases h l with heq | ⟨-, hhead⟩
    · exact keepsApart_chars.head l hl c (heq ▸ hc)
    · exact hhead c hc
  last l hl := by
    rcases h l with heq | ⟨hnot, -⟩
    · exact heq ▸ keepsApart_chars.last l hl
    · simp [hl] at hnot

/-- Lexemes stripped of pseudo-elements keep words apart. -/
theorem keepsApart_stripped : KeepsApart Lexeme.stripped := by
  refine .of_chars fun l => ?_
  cases l with
  | attr name value =>
    refine .inr ⟨rfl, ?_⟩
    rintro c ⟨⟩
    decide
  | pseudoElement e => exact .inr ⟨rfl, by simp [Lexeme.stripped]⟩
  | _ => exact .inl rfl

/-- Lexemes keep words apart when any counted names are gone as well. -/
theorem keepsApart_remaining (counted : List Mark) : KeepsApart (Lexeme.remaining counted) := by
  have hblank : ∀ c ∈ [' '].head?, isNameChar c = false := by
    rintro c ⟨⟩
    decide
  refine .of_chars fun l => ?_
  cases l with
  | attr name value => exact .inr ⟨rfl, hblank⟩
  | pseudoElement e => exact .inr ⟨rfl, by simp [Lexeme.remaining]⟩
  | named m name =>
    by_cases hm : m ∈ counted
    · exact .inr ⟨rfl, by simpa only [Lexeme.remaining, if_pos hm] using hblank⟩
    · exact .inl (by rw [Lexeme.remaining, if_neg hm, Lexeme.chars])
  | _ => exact .inl rfl

/-! ### Pseudo-elements -/

/-- **A pseudo-element is found** where its name is written, whatever follows. -/
theorem pseudoElement_append (e : PseudoElement) (before : Option Char) (rest : List Char) :
    pseudoElement before (':' :: ':' :: (e.name ++ rest)) = e.name.length + 2 := by
  cases e <;> rfl

/-- The pieces of a lexeme when pseudo-elements are looked for. -/
def Lexeme.strippedPieces : Lexeme → List Piece
  | attr name value =>
    .plain '[' ::
      (pieces Selector.pseudoElement (some '[') (attributeChars name value) ++ [.plain ']'])
  | l => asPieces l.isPseudoElement l.chars

/-- An attribute is scanned from bracket to bracket. -/
theorem pieces_attr (name : Name) (value : Option Value) (before : Option Char)
    (rest : List Char) :
    pieces pseudoElement before ((Lexeme.attr name value).chars ++ rest) =
      (Lexeme.attr name value).strippedPieces ++ pieces pseudoElement (some ']') rest := by
  have htext : (Lexeme.attr name value).chars ++ rest =
      '[' :: (attributeChars name value ++ ']' :: rest) := by
    simp [Lexeme.chars]
  have hopen := inert_pseudoElement (show '[' ≠ ':' by decide) before
    (attributeChars name value ++ ']' :: rest)
  have hclose := fun b => inert_pseudoElement (show ']' ≠ ':' by decide) b rest
  rw [htext, pieces_cons_of_zero hopen,
    pieces_append_of_fence fun cs _ hne b =>
      fence_pseudoElement (fun _ => pseudoElement_of_ne (by decide) rest) (by decide) hne,
    pieces_cons_of_zero (hclose _), Lexeme.strippedPieces]
  simp

/-- A pseudo-class is no pseudo-element. -/
theorem pieces_pseudoClass (name : Name) (before : Option Char) (rest : List Char) :
    pieces pseudoElement before (':' :: name.chars ++ rest) =
      (':' :: name.chars).map .plain ++
        pieces pseudoElement ((':' :: name.chars).getLast?.or before) rest := by
  obtain ⟨c, cs, hcs, hc⟩ := name.exists_cons
  have hzero : pseudoElement before (':' :: (name.chars ++ rest)) = 0 := by
    rw [hcs]
    exact pseudoElement_of_ne hc _
  have hinert : ∀ d ∈ name.chars, Inert pseudoElement d := fun d hd =>
    inert_pseudoElement fun he => name.notMem_chars (by decide) (he ▸ hd)
  rw [List.cons_append, pieces_cons_of_zero hzero, pieces_append_of_inert hinert,
    or_getLast?_cons]
  rfl

/-- Where no colon is written there is no pseudo-element. -/
theorem notMem_colon {l : Lexeme} (hm : l.hasMark .pseudoClass = false)
    (ha : l.isAttribute = false) (he : l.isPseudoElement = false) : ':' ∉ l.chars := by
  refine Lexeme.notMem_chars (by decide) (fun hb hx => ?_) (fun m hl => ?_) ha he
  · exact absurd (Lexeme.mem_breakChars hb ':' hx) (by decide)
  · cases m with
    | pseudoClass => simp [hl] at hm
    | _ => decide

/-- A lexeme that is neither an attribute nor a pseudo-element is stripped of nothing. -/
theorem strippedPieces_of_plain {l : Lexeme} (ha : l.isAttribute = false)
    (he : l.isPseudoElement = false) : l.strippedPieces = l.chars.map .plain := by
  cases l with
  | attr name value => simp [Lexeme.isAttribute] at ha
  | pseudoElement e => simp [Lexeme.isPseudoElement] at he
  | _ => simp only [Lexeme.strippedPieces, Lexeme.isPseudoElement, asPieces_false]

/-- **A lexeme is scanned for pseudo-elements** by itself, whatever stands around it. -/
theorem pieces_pseudoElement_append (l : Lexeme) (before : Option Char) (rest : List Char) :
    pieces pseudoElement before (l.chars ++ rest) =
      l.strippedPieces ++ pieces pseudoElement (l.chars.getLast?.or before) rest := by
  have hplain : l.hasMark .pseudoClass = false → l.isAttribute = false →
      l.isPseudoElement = false → pieces pseudoElement before (l.chars ++ rest) =
        l.strippedPieces ++ pieces pseudoElement (l.chars.getLast?.or before) rest := by
    intro hm ha he
    rw [strippedPieces_of_plain ha he]
    exact pieces_append_of_inert fun c hc =>
      inert_pseudoElement fun heq => notMem_colon hm ha he (heq ▸ hc)
  cases l with
  | attr name value =>
    have hlast : (Lexeme.attr name value).chars.getLast? = some ']' := by
      rw [Lexeme.chars, ← List.cons_append, List.getLast?_concat]
    rw [hlast]
    exact pieces_attr name value before rest
  | pseudoElement e => exact pieces_append_of_hit (pseudoElement_append e before rest)
  | named m name =>
    cases m with
    | pseudoClass =>
      rw [strippedPieces_of_plain rfl rfl]
      exact pieces_pseudoClass name before rest
    | _ => exact hplain rfl rfl rfl
  | _ => exact hplain rfl rfl rfl

/-- What is kept of a lexeme. -/
theorem flatMap_strippedPieces (l : Lexeme) :
    (l.strippedPieces.flatMap fun
      | .plain c => [c]
      | .hit _ _ => []) = l.stripped := by
  cases l with
  | attr name value =>
    have hbefore : pieces pseudoElement (some '[') (attributeChars name value) =
        pieces pseudoElement none (attributeChars name value) :=
      pieces_congr_before (pseudoElement_before _ _)
    rw [Lexeme.strippedPieces, Lexeme.stripped, hbefore, List.flatMap_cons, List.flatMap_append]
    rfl
  | pseudoElement e => rfl
  | _ =>
    simp [Lexeme.strippedPieces, Lexeme.isPseudoElement, asPieces_false, List.flatMap_map,
      Lexeme.stripped]

/-- **Taking out the pseudo-elements** leaves every other lexeme in its place. -/
theorem withoutPseudoElements_flatMap {ls : List Lexeme} (hc : ls.IsChain Lexeme.MayPrecede) :
    withoutPseudoElements (ls.flatMap Lexeme.chars) = ls.flatMap Lexeme.stripped := by
  have hpieces : pieces pseudoElement none (ls.flatMap Lexeme.chars) =
      ls.flatMap Lexeme.strippedPieces :=
    pieces_flatMap keepsApart_chars
      (fun l before rest _ _ => pieces_pseudoElement_append l before rest) hc (by simp)
  rw [withoutPseudoElements, replaceAll, hpieces, List.flatMap_assoc]
  congr 1
  funext l
  exact flatMap_strippedPieces l

/-! ### The steps of the scan -/

/-- Between its brackets an attribute has no closing bracket. -/
theorem notMem_attributeChars (name : Name) (value : Option Value) :
    ']' ∉ attributeChars name value := by
  have hname : ']' ∉ name.chars := name.notMem_chars (by decide)
  cases value with
  | none => exact hname
  | some value => simp [attributeChars, hname, value.notMem]

/-- **Something is left** between the brackets of an attribute, since a name starts there. -/
theorem stripped_attributeChars_ne_nil (name : Name) (value : Option Value) :
    withoutPseudoElements (attributeChars name value) ≠ [] := by
  obtain ⟨c, cs, hcs, hc⟩ := name.exists_cons
  obtain ⟨rest, hrest⟩ : ∃ rest, attributeChars name value = c :: rest := by
    cases value with
    | none => exact ⟨cs, hcs⟩
    | some value => exact ⟨_, by rw [attributeChars, hcs, List.cons_append]⟩
  rw [hrest, withoutPseudoElements, replaceAll, pieces_cons_of_zero (inert_pseudoElement hc _ _)]
  exact List.cons_ne_nil _ _

/-- What is left of a lexeme when attributes are looked for, but for the attributes. -/
theorem mem_stripped {l : Lexeme} (ha : l.isAttribute = false) {c : Char} (h : c ∈ l.stripped) :
    c ∈ l.chars ∧ l.isPseudoElement = false := by
  cases l with
  | attr name value => simp [Lexeme.isAttribute] at ha
  | pseudoElement e => simp [Lexeme.stripped] at h
  | _ => exact ⟨h, rfl⟩

/-- **Attributes are taken** from bracket to bracket. -/
theorem takes_attributeToken : Takes attributeToken Lexeme.isAttribute Lexeme.stripped where
  keepsApart := keepsApart_stripped
  inert l hl c hc := by
    obtain ⟨hc, he⟩ := mem_stripped hl hc
    refine inert_attributeToken ?_
    rintro rfl
    refine Lexeme.notMem_chars (by decide) (fun hb hx => ?_) (fun m _ => ?_) hl he hc
    · exact absurd (Lexeme.mem_breakChars hb '[' hx) (by decide)
    · cases m <;> decide
  ne_nil l hl := by
    obtain ⟨name, value, rfl⟩ := Lexeme.isAttribute_iff.1 hl
    exact List.cons_ne_nil _ _
  isBreak l hl := by
    obtain ⟨name, value, rfl⟩ := Lexeme.isAttribute_iff.1 hl
    rfl
  whole l before rest hl _ _ := by
    obtain ⟨name, value, rfl⟩ := Lexeme.isAttribute_iff.1 hl
    refine attributeToken_append (stripped_attributeChars_ne_nil name value) fun h => ?_
    exact notMem_attributeChars name value ((mem_of_mem_replaceAll h).resolve_left List.not_mem_nil)

/-- What remains of a lexeme is a blank or the lexeme as it is written. -/
theorem mem_remaining {counted : List Mark} {l : Lexeme} {c : Char}
    (h : c ∈ l.remaining counted) :
    c = ' ' ∨ c ∈ l.chars ∧ l.isAttribute = false ∧ l.isPseudoElement = false ∧
      ∀ m, l.hasMark m = true → m ∉ counted := by
  cases l with
  | attr name value => exact .inl (List.mem_singleton.1 h)
  | pseudoElement e => simp [Lexeme.remaining] at h
  | named m name =>
    rw [Lexeme.remaining] at h
    split at h
    next => exact .inl (List.mem_singleton.1 h)
    next hm =>
      refine .inr ⟨h, rfl, rfl, fun m' hm' => ?_⟩
      obtain ⟨name', hname⟩ := Lexeme.hasMark_iff.1 hm'
      obtain ⟨rfl, -⟩ := Lexeme.named.inj hname
      exact hm
  | _ => exact .inr ⟨h, rfl, rfl, by simp [Lexeme.hasMark]⟩

/-- The character of a mark is neither plain nor that of a break, and it tells the mark. -/
theorem Mark.char_facts (m : Mark) :
    isPlainChar m.char = false ∧ m.char ∉ breakChars ∧ ∀ m' : Mark, m.char = m'.char → m = m' := by
  refine ⟨?_, ?_, fun m' => ?_⟩
  · cases m <;> decide
  · cases m <;> decide
  · cases m <;> cases m' <;> decide

/-- **A mark remains** only where it is written. -/
theorem notMem_remaining_mark {counted : List Mark} {l : Lexeme} {m : Mark}
    (hl : l.hasMark m = false) : m.char ∉ l.remaining counted := by
  obtain ⟨hplain, hbreak, hinj⟩ := m.char_facts
  intro h
  rcases mem_remaining h with hblank | ⟨hc, ha, he, -⟩
  · exact hbreak (hblank ▸ by decide)
  · refine Lexeme.notMem_chars hplain (fun hb hx => hbreak (Lexeme.mem_breakChars hb _ hx))
      (fun m' hm' heq => ?_) ha he hc
    rw [hinj m' heq, hm'] at hl
    simp at hl

/-- What was not counted remains, mark and name. -/
theorem remaining_named {counted : List Mark} {m : Mark} (hm : m ∉ counted) (name : Name) :
    (Lexeme.named m name).remaining counted = m.char :: name.chars := by
  rw [Lexeme.remaining, if_neg hm]

/-- **Names behind their mark** are taken by the pattern of that mark. -/
theorem takes_mark {p : Pattern} {m : Mark} (hp : IsMarked p m.char) {counted : List Mark}
    (hm : m ∉ counted) : Takes p (Lexeme.hasMark m) (Lexeme.remaining counted) where
  keepsApart := keepsApart_remaining counted
  inert l hl c hc := by
    refine hp.inert c ?_
    rintro rfl
    exact notMem_remaining_mark hl hc
  ne_nil l hl := by
    obtain ⟨name, rfl⟩ := Lexeme.hasMark_iff.1 hl
    rw [remaining_named hm]
    exact List.cons_ne_nil _ _
  isBreak l hl := by
    obtain ⟨name, rfl⟩ := Lexeme.hasMark_iff.1 hl
    rfl
  whole l before rest hl _ hr := by
    obtain ⟨name, rfl⟩ := Lexeme.hasMark_iff.1 hl
    rw [remaining_named hm]
    exact hp.hit before name.chars rest name.ne_nil
      (fun c hc => isNameChar_of_isPlainChar (name.plain c hc)) hr

/-- A word is plain. -/
theorem Word.isPlainWord (w : Word) : isPlainWord w.chars = true :=
  isPlainWord_iff.2 ⟨w.ne_nil, w.alphanumeric⟩

/-- **Tags are identifiers** once all names behind marks are blanked out. -/
theorem takes_identifier :
    Takes identifier Lexeme.isTag (Lexeme.remaining [.pseudoClass, .className, .id]) where
  keepsApart := keepsApart_remaining _
  inert l hl c hc := by
    refine inert_identifier ?_
    rcases mem_remaining hc with rfl | ⟨hc, ha, he, hcounted⟩
    · decide
    · cases l with
      | tag t => simp [Lexeme.isTag] at hl
      | attr name value => simp [Lexeme.isAttribute] at ha
      | pseudoElement e => simp [Lexeme.isPseudoElement] at he
      | named m name =>
        have hm := hcounted m (Lexeme.hasMark_iff.2 ⟨name, rfl⟩)
        cases m <;> simp at hm
      | number digits => exact digits.isAsciiLetter_eq_false c hc
      | opening | closing | gap _ =>
        have hname := isNameChar_of_mem_breakChars c (Lexeme.mem_breakChars rfl c hc)
        refine Bool.eq_false_iff.2 fun hletter => ?_
        simp [isNameChar_of_isPlainChar (isPlainChar_of_isAsciiLetter hletter)] at hname
  ne_nil l hl := by
    obtain ⟨t, rfl⟩ := Lexeme.isTag_iff.1 hl
    exact List.append_ne_nil_of_left_ne_nil t.first.ne_nil _
  isBreak l hl := by
    obtain ⟨t, rfl⟩ := Lexeme.isTag_iff.1 hl
    rfl
  whole l before rest hl hb hr := by
    obtain ⟨t, rfl⟩ := Lexeme.isTag_iff.1 hl
    have hmore : t.more.flatMap (fun w => '-' :: w.chars) =
        (t.more.map Word.chars).flatMap ('-' :: ·) := by
      rw [List.flatMap_map]
    show identifier before (t.chars ++ rest) = t.chars.length
    rw [Tag.chars, hmore]
    exact identifier_append (hb rfl) t.first.isPlainWord t.letter
      (List.forall_mem_map.2 fun w _ => w.isPlainWord) hr

/-! ### Pseudo-classes -/

/-- No parenthesis remains of a lexeme that is none. -/
theorem notMem_remaining_parenthesis {counted : List Mark} {l : Lexeme}
    (hl : l.isParenthesis = false) {x : Char} (hx : x ∈ ['(', ')']) :
    x ∉ l.remaining counted := by
  have hfacts : ∀ x ∈ ['(', ')'], isPlainChar x = false ∧ x ≠ ' ' ∧
      x ∉ [',', ' ', '>', '+', '~'] ∧ ∀ m : Mark, x ≠ m.char := by
    simp only [List.forall_mem_cons, List.not_mem_nil, false_imp_iff, implies_true, and_true]
    refine ⟨⟨by decide, by decide, by decide, fun m => ?_⟩,
      by decide, by decide, by decide, fun m => ?_⟩
    · cases m <;> decide
    · cases m <;> decide
  obtain ⟨hplain, hblank, hgap, hmark⟩ := hfacts x hx
  intro h
  rcases mem_remaining h with rfl | ⟨hc, ha, he, -⟩
  · exact hblank rfl
  · refine Lexeme.notMem_chars hplain (fun hb => ?_) (fun m _ => hmark m) ha he hc
    cases l with
    | opening => simp [Lexeme.isParenthesis] at hl
    | closing => simp [Lexeme.isParenthesis] at hl
    | gap g => exact fun hm => hgap (g.plain x hm)
    | _ => simp [Lexeme.isBreak] at hb

/-- **Nothing but a pseudo-class opens a parenthesis.** -/
theorem Balanced.head_flatMap {ls : List Lexeme} (h : Balanced ls) :
    ∀ c ∈ (ls.flatMap (Lexeme.remaining [])).head?, c ≠ '(' := by
  induction h with
  | nil => simp
  | @cons l ls hl _ ih =>
    rw [List.flatMap_cons]
    refine forall_mem_head?_append (fun c hc => ?_) fun _ => ih
    rintro rfl
    exact notMem_remaining_parenthesis hl (by decide) (List.mem_of_mem_head? hc)
  | argument _ _ _ =>
    rintro c ⟨⟩
    decide

/-- A token of one colon and a name is a pseudo-class. -/
theorem isPseudoClass_colon (name : Name) (more : List Char) :
    isPseudoClass (':' :: (name.chars ++ more)) = true := by
  obtain ⟨c, cs, hcs, hc⟩ := name.exists_cons
  simp [isPseudoClass, hcs, List.isPrefixOf, hc.symm]

/-- How many pseudo-classes a scan finds. -/
def pseudoClassesIn (text : List Piece) : Nat :=
  ((text.filterMap Piece.match?).filter isPseudoClass).length

/-- Characters for themselves are no pseudo-classes. -/
theorem pseudoClassesIn_plain (cs : List Char) (text : List Piece) :
    pseudoClassesIn (cs.map .plain ++ text) = pseudoClassesIn text := by
  simp [pseudoClassesIn, List.filterMap_map, Function.comp_def, Piece.match?]

/-- A match with a pseudo-class is one more. -/
theorem pseudoClassesIn_hit {c : Char} {cs : List Char} (h : isPseudoClass (c :: cs) = true)
    (text : List Piece) : pseudoClassesIn (.hit c cs :: text) = pseudoClassesIn text + 1 := by
  simp [pseudoClassesIn, Piece.match?, h]

/-- **Pseudo-classes are counted once each**, their arguments with them. -/
theorem pseudoClassesIn_flatMap {ls : List Lexeme} (h : IsWritten ls) (before : Option Char) :
    pseudoClassesIn (pieces pseudoToken before (ls.flatMap (Lexeme.remaining []))) =
      ls.countP (·.hasMark .pseudoClass) := by
  obtain ⟨hc, hb⟩ := h
  have hkeeps := keepsApart_remaining []
  have hnotin : ∀ m : Mark, m ∉ [] := fun _ => List.not_mem_nil
  have hname : ∀ name : Name, ∀ c ∈ name.chars, isNameChar c = true := fun name c hc =>
    isNameChar_of_isPlainChar (name.plain c hc)
  induction hb generalizing before with
  | nil =>
    rw [List.flatMap_nil, pieces]
    rfl
  | @cons l ls hl hb ih =>
    rw [List.flatMap_cons]
    cases hm : l.hasMark .pseudoClass with
    | false =>
      have hinert : ∀ c ∈ l.remaining [], Inert pseudoToken c := fun c hmem =>
        inert_pseudoToken fun he => notMem_remaining_mark hm (he ▸ hmem)
      rw [pieces_append_of_inert hinert, pseudoClassesIn_plain, ih _ hc.tail]
      simp [hm]
    | true =>
      obtain ⟨name, rfl⟩ := Lexeme.hasMark_iff.1 hm
      have hhit := pseudoToken_append before name.ne_nil (hname name)
        (hkeeps.head_flatMap hc rfl)
      rw [argumentsLength_eq_zero hb.head_flatMap, Nat.add_zero] at hhit
      have htoken : isPseudoClass (':' :: name.chars) = true := by
        simpa using isPseudoClass_colon name []
      have htext : (Lexeme.named .pseudoClass name).remaining [] = ':' :: name.chars := rfl
      rw [htext, pieces_append_of_hit hhit, pseudoClassesIn_hit htoken, ih _ hc.tail]
      simp [hm]
  | @argument name inner ls hinner hb ih =>
    -- the token goes up to the parenthesis that closes the argument
    let argument := inner.flatMap (Lexeme.remaining [])
    have htext : (Lexeme.named .pseudoClass name :: .opening :: (inner ++ .closing :: ls)).flatMap
        (Lexeme.remaining []) =
        ':' :: (name.chars ++ '(' :: (argument ++ [')'])) ++ ls.flatMap (Lexeme.remaining []) := by
      simp [argument, Lexeme.remaining, Mark.char, Lexeme.chars]
    have hclose : ')' ∉ argument := by
      intro h
      obtain ⟨l, hl, h⟩ := List.mem_flatMap.1 h
      exact notMem_remaining_parenthesis (hinner l hl).1 (by decide) h
    have hopening : ∀ c ∈ ('(' :: (argument ++ ')' :: ls.flatMap (Lexeme.remaining []))).head?,
        isNameChar c = false := by
      rintro c ⟨⟩
      decide
    have hhit : pseudoToken before (':' :: (name.chars ++ '(' :: (argument ++ [')'])) ++
        ls.flatMap (Lexeme.remaining [])) =
        (name.chars ++ '(' :: (argument ++ [')'])).length + 1 := by
      have htoken := pseudoToken_append before name.ne_nil (hname name) hopening
      rw [argumentsLength_append hclose] at htoken
      simp only [List.cons_append, List.append_assoc, List.nil_append, List.length_append,
        List.length_cons, List.length_nil] at htoken ⊢
      omega
    have hchain : ls.IsChain Lexeme.MayPrecede := hc.tail.tail.right_of_append.tail
    have hzero : inner.countP (·.hasMark .pseudoClass) = 0 :=
      List.countP_eq_zero.2 fun l hl => by simp [(hinner l hl).2]
    rw [htext, pieces_append_of_hit hhit, pseudoClassesIn_hit (isPseudoClass_colon name _),
      ih _ hchain]
    rw [List.countP_cons_of_pos (by rfl), List.countP_cons_of_neg (by simp [Lexeme.hasMark]),
      List.countP_append, hzero, List.countP_cons_of_neg (by simp [Lexeme.hasMark]), Nat.zero_add]

/-! ### The weight of a selector -/

/-- **Blanking out** a mark's names leaves what remains without that mark. -/
theorem blanked_mark {p : Pattern} {m : Mark} (hp : IsMarked p m.char) {counted : List Mark}
    (hm : m ∉ counted) {ls : List Lexeme} (hc : ls.IsChain Lexeme.MayPrecede) :
    blanked p (ls.flatMap (Lexeme.remaining counted)) =
      ls.flatMap (Lexeme.remaining (m :: counted)) := by
  rw [blanked, (takes_mark hp hm).replaceAll hc]
  congr 1
  funext l
  cases l with
  | named m' name =>
    by_cases hmm : m' = m
    · simp [Lexeme.hasMark, Lexeme.remaining, hmm]
    · simp [Lexeme.hasMark, Lexeme.remaining, hmm]
  | _ => rfl

/-- **Blanking out the attributes** leaves what remains before any mark is counted. -/
theorem blanked_attributeToken {ls : List Lexeme} (hc : ls.IsChain Lexeme.MayPrecede) :
    blanked attributeToken (ls.flatMap Lexeme.stripped) = ls.flatMap (Lexeme.remaining []) := by
  rw [blanked, takes_attributeToken.replaceAll hc]
  congr 1
  funext l
  cases l <;> rfl

/-- A tag is a keyword as the scan has it if it names no element. -/
theorem isKeyword_chars (t : Tag) : isKeyword t.chars = !t.namesElement := by
  have hnames : keywords = keywordNames.map String.toList := rfl
  rw [Tag.namesElement, Bool.not_not, Bool.eq_iff_iff, isKeyword, hnames, List.contains_iff_mem,
    List.contains_iff_mem, List.mem_map]
  constructor
  · rintro ⟨name, hname, heq⟩
    rw [← heq, String.ofList_toList]
    exact hname
  · exact fun h => ⟨_, h, String.toList_ofList⟩

/-- **Type names are counted** as the tags that name elements. -/
theorem typeNameCount_flatMap {ls : List Lexeme} (hc : ls.IsChain Lexeme.MayPrecede) :
    typeNameCount (ls.flatMap (Lexeme.remaining [.pseudoClass, .className, .id])) =
      Weight.capped (ls.countP (·.namesElement)) := by
  rw [typeNameCount, takes_identifier.matchesOf hc, List.filter_map, List.length_map,
    List.filter_filter, ← List.countP_eq_length_filter]
  congr 1
  refine List.countP_congr fun l _ => ?_
  cases l with
  | tag t =>
    have ht : (Lexeme.tag t).remaining [.pseudoClass, .className, .id] = t.chars := rfl
    simp [Lexeme.namesElement, Lexeme.isTag, ht, isKeyword_chars]
  | _ => simp [Lexeme.namesElement, Lexeme.isTag]

/-- Counts that are added up in turn are the count of all of them. -/
theorem addCapped_capped (a b c : Nat) :
    Weight.addCapped (Weight.addCapped (Weight.capped a) (Weight.capped b)) (Weight.capped c) =
      Weight.capped (a + b + c) := by
  simp only [Weight.addCapped, Weight.capped]
  omega

/-- **The weight of a selector is given by its counts**, cut down to the largest that a
component of a weight holds. -/
theorem weigh_lexemes {ls : List Lexeme} (h : IsWritten ls) :
    weigh (ls.flatMap Lexeme.chars) =
      { inline := 0
        ids := Weight.capped (ls.countP (·.hasMark .id))
        classes := Weight.capped (ls.countP (·.hasMark .className) + ls.countP (·.isAttribute) +
          ls.countP (·.hasMark .pseudoClass))
        elements := Weight.capped (ls.countP (·.namesElement)) } := by
  have hid : IsMarked idToken Mark.id.char := isMarked_markedName '#'
  have hclass : IsMarked classToken Mark.className.char := isMarked_markedName '.'
  have hpseudo : IsMarked pseudoName Mark.pseudoClass.char := isMarked_pseudoName
  have hpseudoClasses : pseudoClassCount (ls.flatMap (Lexeme.remaining [])) =
      Weight.capped (ls.countP (·.hasMark .pseudoClass)) :=
    congrArg Weight.capped (pseudoClassesIn_flatMap h none)
  have hnamed : blanked pseudoName (blanked classToken (blanked idToken
      (ls.flatMap (Lexeme.remaining [])))) =
      ls.flatMap (Lexeme.remaining [.pseudoClass, .className, .id]) := by
    rw [blanked_mark hid List.not_mem_nil h.chain,
      blanked_mark hclass (show Mark.className ∉ [Mark.id] by decide) h.chain,
      blanked_mark hpseudo (show Mark.pseudoClass ∉ [Mark.className, Mark.id] by decide) h.chain]
  simp only [weigh, withoutPseudoElements_flatMap h.chain, blanked_attributeToken h.chain, hnamed,
    takes_attributeToken.countOf h.chain, (takes_mark hid List.not_mem_nil).countOf h.chain,
    (takes_mark hclass List.not_mem_nil).countOf h.chain, hpseudoClasses,
    typeNameCount_flatMap h.chain, addCapped_capped]

/-- A name that is given as a text. -/
def Name.ofString (text : String) (hne : text.toList ≠ [])
    (h : text.toList.all isPlainChar = true) : Name where
  chars := text.toList
  ne_nil := hne
  plain := List.all_eq_true.1 h

/-- A tag of one word of letters. -/
def Tag.ofLetters (text : String) (hne : text.toList ≠ [])
    (h : text.toList.all isAsciiLetter = true) : Tag where
  first.chars := text.toList
  first.ne_nil := hne
  first.alphanumeric c hc := by
    have hletter : c.isAlpha = true := List.all_eq_true.1 h c hc
    simp [isAsciiAlphanumeric, Char.isAlphanum, hletter]
  more := []
  letter c hc := List.all_eq_true.1 h c (List.mem_of_mem_head? hc)

/-- **The weight of a written selector**, as long as no count reaches the largest that a
component of a weight holds: no part for `style`, the number of ids, the number of classes,
attributes and pseudo-classes, and the number of tags that name elements. What stands in
arguments counts as well, and the four pseudo-elements count nothing. -/
theorem specificity_render (s : Complex) (hids : s.ids < Weight.limit)
    (hclasses : s.classes < Weight.limit) (helements : s.elements < Weight.limit) :
    specificity s.render = ⟨0, s.ids, s.classes, s.elements⟩ := by
  have hcapped : ∀ n, n < Weight.limit → Weight.capped n = n := by
    intro n hn
    exact Nat.min_eq_left (Nat.le_of_lt hn)
  rw [specificity, Complex.render, String.toList_ofList, weigh_lexemes s.isWritten_lexemes]
  exact congr (congr (congrArg (Weight.mk 0) (hcapped _ hids)) (hcapped _ hclasses))
    (hcapped _ helements)

/-- A selector with a keyword as a tag, marks inside a quoted value, and an argument. -/
def menuLink : Complex where
  first := ⟨some (.ofLetters "ul" (by decide) (by decide)), []⟩
  rest :=
    [(.child, ⟨some (.ofLetters "a" (by decide) (by decide)),
      [.condition (.id (.ofString "home" (by decide) (by decide))),
       .condition (.attr (.ofString "href" (by decide) (by decide))
         (some ⟨"#x.y::before".toList, by decide⟩)),
       .pseudoClass (.ofString "not" (by decide) (by decide))
         (some (.list ⟨none, [.className (.ofString "c" (by decide) (by decide))]⟩
           [(⟨[',', ' '], by decide, by simp⟩,
             ⟨some (.ofLetters "of" (by decide) (by decide)), []⟩)])),
       .pseudoElement .after]⟩)]

/-- The weight of that selector: one id, three of class weight, and two elements. -/
theorem specificity_render_menuLink :
    specificity "ul > a#home[href=\"#x.y::before\"]:not(.c, of)::after" = ⟨0, 1, 3, 2⟩ := by
  have htext : menuLink.render = "ul > a#home[href=\"#x.y::before\"]:not(.c, of)::after" := by
    decide
  rw [← htext]
  exact specificity_render menuLink (by decide) (by decide) (by decide)

end SelectorFinder.Selector.Grammar
