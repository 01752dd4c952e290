import Mathlib.Data.Bool.AllAny
import SelectorFinder.Proofs.Text.Tokens
import SelectorFinder.Selector.Syntax
import SelectorFinder.Text.Ascii
import SelectorFinder.Text.Blank

/-!
# Reading Selectors

A reader of written selectors that knows nothing of how they came about: it goes through the
text from left to right and builds the selector that is written there. It reads selectors
whose names are plain, that is, which start with an ASCII letter and go on with letters,
digits, hyphens and underscores, and whose attribute values need no escape; any other text it
refuses.

## Main results

* `read?_render`: the reader gives back every plain selector from its written form.
* `eq_of_render_eq`: so the written form of a plain selector has one meaning.
-/

namespace SelectorFinder.Selector

open SelectorFinder.Text

/-! ### Plain names -/

/-- Part of a plain name. -/
def isPlainChar (c : Char) : Bool :=
  isAsciiAlphanumeric c || c == '-' || c == '_'

/-- A plain name: a letter, then letters, digits, hyphens and underscores. -/
def isPlainName (name : String) : Bool :=
  match name.toList with
  | [] => false
  | c :: cs => isAsciiLetter c && cs.all isPlainChar

/-- A character that stands for itself between quotes. -/
def isPlainValueChar (c : Char) : Bool :=
  c != '"' && c != '\\' && c != '\n'

/-- Plain characters are ASCII. -/
theorem lt_of_isPlainChar {c : Char} (h : isPlainChar c) : c.toNat < 128 := by
  -- letters and digits are ranges, each of which ends below the bound
  have hrange : ∀ last : Char, last.toNat < 128 → c.val ≤ last.val → c.toNat < 128 :=
    fun _ hlast hc => Nat.lt_of_le_of_lt (UInt32.le_iff_toNat_le.1 hc) hlast
  have hchar : (((c.isUpper || c.isLower) || c.isDigit) || c == '-' || c == '_') = true := h
  simp only [Bool.or_eq_true, beq_iff_eq] at hchar
  rcases hchar with (((hupper | hlower) | hdigit) | rfl) | rfl
  · exact hrange 'Z' (by decide) (of_decide_eq_true hupper).2
  · exact hrange 'z' (by decide) (of_decide_eq_true (Bool.and_eq_true_iff.1 hlower).2)
  · exact hrange '9' (by decide) (of_decide_eq_true (Bool.and_eq_true_iff.1 hdigit).2)
  · decide
  · decide

/-- Letters are plain. -/
theorem isPlainChar_of_isAsciiLetter {c : Char} (h : isAsciiLetter c) : isPlainChar c := by
  have hc : c.isAlpha = true := h
  simp [isPlainChar, isAsciiAlphanumeric, Char.isAlphanum, hc]

/-- What is found of all ASCII characters, one after the other, holds of each of them. -/
theorem forall_ascii {P : Char → Prop} (h : ∀ n < 128, P (Char.ofNat n)) {c : Char}
    (hc : c.toNat < 128) : P c := by
  rw [← Char.ofNat_toNat c]
  exact h c.toNat hc

/-- Other characters than ASCII have no lower case. -/
theorem toLower_eq_or_lt (c : Char) : c.toLower = c ∨ c.toNat < 128 := by
  unfold Char.toLower
  split
  next hupper => exact .inr (Nat.lt_of_le_of_lt (UInt32.le_iff_toNat_le.1 hupper.2) (by decide))
  next => exact .inl rfl

/-- Lower case is lowered no further. -/
theorem toLower_toLower (c : Char) : c.toLower.toLower = c.toLower := by
  rcases toLower_eq_or_lt c with h | h
  · rw [h, h]
  · exact forall_ascii (P := fun c => c.toLower.toLower = c.toLower) (by decide) h

/-- **A plain character** stays plain in lower case, a letter a letter, and is not blank. -/
theorem plainChar_facts {c : Char} (h : isPlainChar c) :
    isPlainChar c.toLower ∧ (isAsciiLetter c → isAsciiLetter c.toLower) ∧ isBlank c = false :=
  forall_ascii (P := fun c => isPlainChar c → isPlainChar c.toLower ∧
    (isAsciiLetter c → isAsciiLetter c.toLower) ∧ isBlank c = false)
    (by decide) (lt_of_isPlainChar h) h

/-- A plain name starts with a letter, and plain characters follow. -/
theorem exists_of_isPlainName {name : String} (h : isPlainName name) :
    ∃ c cs, name.toList = c :: cs ∧ isAsciiLetter c ∧ ∀ d ∈ cs, isPlainChar d := by
  rw [isPlainName] at h
  split at h
  next => simp at h
  next c cs hname =>
    obtain ⟨hc, hcs⟩ := Bool.and_eq_true_iff.1 h
    exact ⟨c, cs, hname, hc, List.all_eq_true.1 hcs⟩

/-- A plain name has plain characters only. -/
theorem isPlainChar_of_mem {name : String} (h : isPlainName name) :
    ∀ c ∈ name.toList, isPlainChar c := by
  obtain ⟨c, cs, hname, hc, hcs⟩ := exists_of_isPlainName h
  rw [hname]
  exact List.forall_mem_cons.2 ⟨isPlainChar_of_isAsciiLetter hc, hcs⟩

/-- **A plain name stays plain** in lower case. -/
theorem isPlainName_lower {name : String} (h : isPlainName name) : isPlainName (lower name) := by
  obtain ⟨c, cs, hname, hc, hcs⟩ := exists_of_isPlainName h
  have hlower : (lower name).toList = c.toLower :: cs.map Char.toLower := by
    simp [lower, hname]
  rw [isPlainName, hlower]
  refine Bool.and_eq_true_iff.2 ⟨?_, List.all_eq_true.2 (List.forall_mem_map.2 fun d hd => ?_)⟩
  · exact (plainChar_facts (isPlainChar_of_isAsciiLetter hc)).2.1 hc
  · exact (plainChar_facts (hcs d hd)).1

/-! ### The reader -/

/-- Reads something from the start of a text and gives what is left, or reads nothing. -/
abbrev Reader (α : Type) := List Char → Option (α × List Char)

namespace Reader

variable {α β : Type}

/-- Reads with another sense. -/
def map (f : α → β) (read : Reader α) : Reader β := fun cs =>
  (read cs).map fun (a, rest) => (f a, rest)

/-- Reads as often as it can, up to a number of times. -/
def many (read : Reader α) : Nat → List Char → List α × List Char
  | 0, cs => ([], cs)
  | budget + 1, cs =>
    match read cs with
    | none => ([], cs)
    | some (a, rest) =>
      let r := many read budget rest
      (a :: r.1, r.2)

end Reader

/-- Reads a plain name. -/
def readName? : Reader String
  | [] => none
  | c :: cs =>
    if isAsciiLetter c then
      some (String.ofList (c :: cs.takeWhile isPlainChar), cs.dropWhile isPlainChar)
    else none

/-- Reads digits as a number. -/
def readNumber? : Reader Nat := fun cs =>
  match cs.takeWhile Char.isDigit with
  | [] => none
  | digits => some (Nat.ofDigitChars 10 digits 0, cs.dropWhile Char.isDigit)

/-- Reads a quoted value up to the bracket that closes the attribute. -/
def readValue? : Reader String
  | '=' :: '"' :: cs =>
    match cs.dropWhile isPlainValueChar with
    | '"' :: ']' :: rest => some (String.ofList (cs.takeWhile isPlainValueChar), rest)
    | _ => none
  | _ => none

/-- Reads an id, a class or an attribute. -/
def readMark? : Reader Simple
  | '#' :: cs => readName?.map .id cs
  | '.' :: cs => readName?.map .className cs
  | '[' :: cs => do
    let (name, cs) ← readName? cs
    readValue?.map (.attr name) cs
  | _ => none

/-- Reads a compound, in which a type name may stand first. -/
def readCompoundOf {α : Type} (typed : String → α) (mark? : Reader α) : Reader (List α) := fun cs =>
  match (readName?.map typed cs).or (mark? cs) with
  | none => none
  | some (a, cs) =>
    let marks := mark?.many cs.length cs
    some (a :: marks.1, marks.2)

/-- Reads simple selectors on one element. -/
def readConditions? : Reader (List Simple) :=
  readCompoundOf .type readMark?

/-- Reads the arguments of a pseudo-class. -/
def readArguments? (name : String) : Reader Part :=
  match name with
  | "nth-child" => readNumber?.map .nthChild
  | "nth-of-type" => readNumber?.map .nthOfType
  | "has" => readConditions?.map .has
  | "not" => readConditions?.map .isNot
  | "is" => readConditions?.map .isAny
  | "where" => readConditions?.map .whereAny
  | _ => fun _ => none

/-- Reads a pseudo-class behind its colon. -/
def readPseudoClass? : Reader Part := fun cs => do
  let (name, cs) ← readName? cs
  match cs with
  | '(' :: cs =>
    match readArguments? name cs with
    | some (part, ')' :: cs) => some (part, cs)
    | _ => none
  | _ => some (.state name, cs)

/-- Reads a part of a compound other than a type name. -/
def readPart? : Reader Part
  | ':' :: ':' :: cs => readName?.map .pseudoElement cs
  | ':' :: cs => readPseudoClass? cs
  | cs => readMark?.map .simple cs

/-- Reads a compound. -/
def readCompound? : Reader Compound :=
  readCompoundOf (.simple <| .type ·) readPart?

/-- Reads a combinator. -/
def readCombinator? : Reader Combinator
  | ' ' :: '>' :: ' ' :: cs => some (.child, cs)
  | ' ' :: '+' :: ' ' :: cs => some (.nextSibling, cs)
  | ' ' :: cs => some (.descendant, cs)
  | _ => none

/-- Reads a combinator with the compound behind it. -/
def readStep? : Reader (Combinator × Compound) := fun cs => do
  let (between, cs) ← readCombinator? cs
  readCompound?.map (between, ·) cs

/-- **Reads a text as a selector**, as a whole. -/
def read? (text : String) : Option Selector :=
  match readCompound? text.toList with
  | none => none
  | some (first, cs) =>
    match readStep?.many cs.length cs with
    | (rest, []) => some ⟨first, rest⟩
    | _ => none

/-! ### Plain selectors -/

/-- Names and value of a simple selector need no escape. -/
def Simple.IsPlain : Simple → Prop
  | type name => isPlainName name
  | id name => isPlainName name
  | className name => isPlainName name
  | attr name value => isPlainName name ∧ ∀ c ∈ value.toList, isPlainValueChar c

/-- A type name. -/
def Simple.isType : Simple → Bool
  | type _ => true
  | _ => false

/-- Simple selectors that can be written on one element: there is one, and a type name stands
nowhere but at the start. -/
structure ArePlain (simple : List Simple) : Prop where
  ne_nil : simple ≠ []
  plain : ∀ s ∈ simple, s.IsPlain
  isType_tail : ∀ s ∈ simple.tail, s.isType = false

/-- A part of a compound with plain names. -/
def Part.IsPlain : Part → Prop
  | simple s => s.IsPlain
  | state name => isPlainName name
  | nthChild _ => True
  | nthOfType _ => True
  | has inner => ArePlain inner
  | isNot inner => ArePlain inner
  | isAny inner => ArePlain inner
  | whereAny inner => ArePlain inner
  | pseudoElement name => isPlainName name

/-- A type name as a part of a compound. -/
def Part.isType : Part → Bool
  | simple s => s.isType
  | _ => false

/-- A compound with plain names; a type name stands nowhere but at the start. -/
structure Compound.IsPlain (c : Compound) : Prop where
  ne_nil : c ≠ []
  plain : ∀ part ∈ c, part.IsPlain
  isType_tail : ∀ part ∈ c.tail, part.isType = false

/-- **Plain selectors**: all compounds are. -/
structure IsPlain (s : Selector) : Prop where
  first : s.first.IsPlain
  rest : ∀ step ∈ s.rest, step.2.IsPlain

/-- A single plain condition is a plain list of them. -/
theorem ArePlain.singleton {s : Simple} (h : s.IsPlain) : ArePlain [s] where
  ne_nil := List.cons_ne_nil s []
  plain := List.forall_mem_singleton.2 h
  isType_tail := by simp

/-- A compound of simple selectors is plain if they are. -/
theorem ArePlain.ofSimple {simple : List Simple} (h : ArePlain simple) :
    (Compound.ofSimple simple).IsPlain where
  ne_nil := fun he => h.ne_nil (List.map_eq_nil_iff.1 he)
  plain := List.forall_mem_map.2 h.plain
  isType_tail := by
    rw [Compound.ofSimple, ← List.map_tail]
    exact List.forall_mem_map.2 h.isType_tail

/-- **A compound stays plain** when parts other than type names are put behind it. -/
theorem Compound.IsPlain.append {c parts : Compound} (h : c.IsPlain)
    (hparts : ∀ part ∈ parts, part.IsPlain ∧ part.isType = false) :
    Compound.IsPlain (c ++ parts) where
  ne_nil := List.append_ne_nil_of_left_ne_nil h.ne_nil parts
  plain := List.forall_mem_append.2 ⟨h.plain, fun part hm => (hparts part hm).1⟩
  isType_tail := by
    rw [List.tail_append_of_ne_nil h.ne_nil]
    exact List.forall_mem_append.2 ⟨h.isType_tail, fun part hm => (hparts part hm).2⟩

/-- A compound of a single part is plain if the part is. -/
theorem Part.IsPlain.singleton {part : Part} (h : part.IsPlain) : Compound.IsPlain [part] where
  ne_nil := List.cons_ne_nil part []
  plain := List.forall_mem_singleton.2 h
  isType_tail := by simp

/-- A plain compound is a plain selector. -/
theorem isPlain_ofCompound {c : Compound} (h : c.IsPlain) : (ofCompound c).IsPlain where
  first := h
  rest := by simp [ofCompound]

/-- Two plain compounds are a plain selector, whatever stands between them. -/
theorem isPlain_pair {c c' : Compound} (h : c.IsPlain) (h' : c'.IsPlain)
    (between : Combinator) : (pair c between c').IsPlain where
  first := h
  rest := by simpa [pair] using h'

/-- Plain levels are a plain selector, if there are any. -/
theorem isPlain_ofLevels {levels : List Compound} (hne : levels ≠ [])
    (h : ∀ c ∈ levels, c.IsPlain) : (ofLevels levels).IsPlain := by
  obtain ⟨c, levels, rfl⟩ := List.exists_cons_of_ne_nil hne
  refine ⟨h c List.mem_cons_self, List.forall_mem_map.2 fun c' hc' => ?_⟩
  exact h c' (List.mem_cons_of_mem c hc')

/-! ### What may follow -/

/-- A part of a compound other than a type name starts here. -/
def Opens (cs : List Char) : Prop :=
  ∃ c rest, cs = c :: rest ∧ c ∈ ['#', '.', '[', ':']

/-- A compound ends here: a combinator follows, a closing parenthesis, or nothing. -/
def Ends (cs : List Char) : Prop :=
  ∀ c ∈ cs.head?, c ∈ [' ', ')']

/-- A part of a compound ends here. -/
def Follows (cs : List Char) : Prop :=
  Opens cs ∨ Ends cs

/-- What starts a part starts it in front of any text. -/
theorem Opens.append {cs : List Char} (h : Opens cs) (rest : List Char) : Opens (cs ++ rest) := by
  obtain ⟨c, cs, rfl, hc⟩ := h
  exact ⟨c, cs ++ rest, rfl, hc⟩

/-- There is something where a part starts. -/
theorem Opens.ne_nil {cs : List Char} (h : Opens cs) : cs ≠ [] := by
  obtain ⟨c, cs, rfl, -⟩ := h
  exact List.cons_ne_nil c cs

/-- **Nothing that follows a part prolongs a name** or opens arguments. -/
theorem Follows.head {cs : List Char} (h : Follows cs) :
    ∀ c ∈ cs.head?, isPlainChar c = false ∧ c ≠ '(' := by
  have hall : ∀ c ∈ ['#', '.', '[', ':', ' ', ')'], isPlainChar c = false ∧ c ≠ '(' :=
    List.all_iff_forall_prop.1 (by decide)
  intro c hc
  rcases h with ⟨_, _, rfl, hm⟩ | h
  · obtain rfl := Option.some.inj hc
    exact hall _ (List.mem_append_left [' ', ')'] hm)
  · exact hall c (List.mem_append_right ['#', '.', '[', ':'] (h c hc))

/-! ### Names and numbers -/

/-- **A name is read** up to the first character that cannot prolong it. -/
theorem readName?_append {name : String} (h : isPlainName name) {rest : List Char}
    (hr : ∀ c ∈ rest.head?, isPlainChar c = false) :
    readName? (name.toList ++ rest) = some (name, rest) := by
  obtain ⟨c, cs, hname, hc, hcs⟩ := exists_of_isPlainName h
  rw [hname, List.cons_append, readName?, if_pos hc, takeWhile_stretch hcs hr,
    dropWhile_stretch hcs hr, ← hname, String.ofList_toList]

/-- No name is read where something else starts. -/
theorem readName?_eq_none {cs : List Char} (h : Follows cs) : readName? cs = none := by
  cases cs with
  | nil => rfl
  | cons c cs =>
    rw [readName?, if_neg]
    intro hc
    simpa [isPlainChar_of_isAsciiLetter hc] using h.head c rfl

/-- **A number is read** back from its digits. -/
theorem readNumber?_append (k : Nat) {rest : List Char}
    (hr : ∀ c ∈ rest.head?, c.isDigit = false) :
    readNumber? ((toString k).toList ++ rest) = some (k, rest) := by
  have hdigits : ∀ c ∈ (toString k).toList, c.isDigit = true := fun _ => isDigit_of_mem_toString
  rw [readNumber?, takeWhile_stretch hdigits hr, dropWhile_stretch hdigits hr, toList_toString]
  split
  next hnil => exact absurd hnil Nat.toDigits_ne_nil
  next => rw [Nat.ofDigitChars_ten_toDigits]

/-! ### Repetition -/

section Many

variable {α : Type} {read : Reader α} {write : α → List Char}

/-- What may stand in front of each thing and at the end may stand in front of them all. -/
theorem good_flatMap_append {good : List Char → Prop} {xs : List α} {stop : List Char}
    (hgood : ∀ x ∈ xs, ∀ rest, good (write x ++ rest)) (hstop : good stop) :
    good (xs.flatMap write ++ stop) := by
  cases xs with
  | nil => exact hstop
  | cons x xs =>
    rw [List.flatMap_cons, List.append_assoc]
    exact hgood x List.mem_cons_self _

/-- **Things written one behind the other are read** one after the other, if each is read
where the next one follows and nothing is read at the end. -/
theorem Reader.many_append {good : List Char → Prop} {xs : List α} {stop : List Char}
    (hread : ∀ x ∈ xs, ∀ rest, good rest → read (write x ++ rest) = some (x, rest))
    (hgood : ∀ x ∈ xs, ∀ rest, good (write x ++ rest)) (hstop : good stop)
    (hnone : read stop = none) {budget : Nat} (hb : xs.length ≤ budget) :
    read.many budget (xs.flatMap write ++ stop) = (xs, stop) := by
  induction xs generalizing budget with
  | nil => cases budget <;> simp [Reader.many, hnone]
  | cons x xs ih =>
    obtain ⟨budget, rfl⟩ := Nat.exists_eq_add_one.2 (Nat.lt_of_lt_of_le (Nat.succ_pos _) hb)
    have hmore := fun y hy => hgood y (List.mem_cons_of_mem x hy)
    have hrest : good (xs.flatMap write ++ stop) := good_flatMap_append hmore hstop
    have ih := ih (fun y hy => hread y (List.mem_cons_of_mem x hy)) hmore
      (Nat.le_of_succ_le_succ hb)
    rw [List.flatMap_cons, List.append_assoc, Reader.many, hread x List.mem_cons_self _ hrest]
    simp only [ih]

/-- Things that are written with a character each at least are no more than the characters. -/
theorem length_le_length_flatMap {xs : List α} (h : ∀ x ∈ xs, write x ≠ [])
    (stop : List Char) : xs.length ≤ (xs.flatMap write ++ stop).length := by
  induction xs with
  | nil => exact Nat.zero_le _
  | cons x xs ih =>
    have hx := List.length_pos_iff.2 (h x List.mem_cons_self)
    have ih := ih fun y hy => h y (List.mem_cons_of_mem x hy)
    simp only [List.flatMap_cons, List.length_append, List.length_cons] at ih ⊢
    omega

end Many

/-! ### Simple selectors -/

/-- A simple selector other than a type name starts with its mark. -/
theorem Simple.opens {s : Simple} (h : s.isType = false) : Opens s.render.toList := by
  cases s with
  | type name => simp [isType] at h
  | id name => exact ⟨'#', name.toList, by simp [render], by decide⟩
  | className name => exact ⟨'.', name.toList, by simp [render], by decide⟩
  | attr name value =>
    exact ⟨'[', name.toList ++ '=' :: '"' :: (value.toList ++ ['"', ']']), by simp [render],
      by decide⟩

/-- **A quoted value is read** up to the quote that closes it. -/
theorem readValue?_append {value : String} (h : ∀ c ∈ value.toList, isPlainValueChar c)
    (rest : List Char) :
    readValue? ('=' :: '"' :: (value.toList ++ '"' :: ']' :: rest)) = some (value, rest) := by
  have hquote : ∀ c ∈ ('"' :: ']' :: rest).head?, isPlainValueChar c = false := by
    rintro c ⟨⟩
    decide
  rw [readValue?, dropWhile_stretch h hquote, takeWhile_stretch h hquote, String.ofList_toList]
  rfl

/-- **A simple selector is read** where its mark stands. -/
theorem readMark?_append {s : Simple} (h : s.IsPlain) (hs : s.isType = false) {rest : List Char}
    (hr : Follows rest) : readMark? (s.render.toList ++ rest) = some (s, rest) := by
  have hhead : ∀ c ∈ rest.head?, isPlainChar c = false := fun c hc => (hr.head c hc).1
  cases s with
  | type name => simp [Simple.isType] at hs
  | id name =>
    have htext : (Simple.id name).render.toList ++ rest = '#' :: (name.toList ++ rest) := by
      simp [Simple.render]
    rw [htext, readMark?, Reader.map, readName?_append h hhead, Option.map_some]
  | className name =>
    have htext : (Simple.className name).render.toList ++ rest = '.' :: (name.toList ++ rest) := by
      simp [Simple.render]
    rw [htext, readMark?, Reader.map, readName?_append h hhead, Option.map_some]
  | attr name value =>
    have htext : (Simple.attr name value).render.toList ++ rest =
        '[' :: (name.toList ++ '=' :: '"' :: (value.toList ++ '"' :: ']' :: rest)) := by
      simp [Simple.render]
    obtain ⟨hname, hvalue⟩ := h
    have hequals : ∀ c ∈ ('=' :: '"' :: (value.toList ++ '"' :: ']' :: rest)).head?,
        isPlainChar c = false := by
      rintro c ⟨⟩
      decide
    rw [htext, readMark?, readName?_append hname hequals]
    simp [Reader.map, readValue?_append hvalue]

/-- No simple selector is read at the end of a compound. -/
theorem readMark?_eq_none {cs : List Char} (h : Ends cs) : readMark? cs = none := by
  cases cs with
  | nil => rfl
  | cons c cs =>
    have hc := h c rfl
    simp only [List.mem_cons, List.not_mem_nil, or_false] at hc
    rcases hc with rfl | rfl <;> rfl

/-! ### Compounds -/

section CompoundOf

variable {α : Type} {typed : String → α} {mark? : Reader α} {write : α → List Char}

/-- **A compound is read**, if its first part is, and the others behind their marks. -/
theorem readCompoundOf_append {a : α} {marks : List α} {stop : List Char}
    (hfirst : ∀ rest, Follows rest →
      (readName?.map typed (write a ++ rest)).or (mark? (write a ++ rest)) = some (a, rest))
    (hmarks : ∀ x ∈ marks, ∀ rest, Follows rest → mark? (write x ++ rest) = some (x, rest))
    (hopens : ∀ x ∈ marks, Opens (write x)) (hstop : Ends stop) (hnone : mark? stop = none) :
    readCompoundOf typed mark? ((a :: marks).flatMap write ++ stop) = some (a :: marks, stop) := by
  have hgood : ∀ x ∈ marks, ∀ rest, Follows (write x ++ rest) := fun x hx rest =>
    .inl ((hopens x hx).append rest)
  have hrest : Follows (marks.flatMap write ++ stop) := good_flatMap_append hgood (.inr hstop)
  have hlen := length_le_length_flatMap (fun x hx => (hopens x hx).ne_nil) stop
  rw [List.flatMap_cons, List.append_assoc, readCompoundOf, hfirst _ hrest]
  simp only [Reader.many_append hmarks hgood (.inr hstop) hnone hlen]

/-- A type name is read where a compound starts. -/
theorem readFirst_of_name {name : String} (h : isPlainName name) {rest : List Char}
    (hr : Follows rest) :
    (readName?.map typed (name.toList ++ rest)).or (mark? (name.toList ++ rest)) =
      some (typed name, rest) := by
  rw [Reader.map, readName?_append h fun c hc => (hr.head c hc).1]
  rfl

/-- A mark is read where a compound starts. -/
theorem readFirst_of_opens {cs : List Char} (h : Opens cs) :
    (readName?.map typed cs).or (mark? cs) = mark? cs := by
  rw [Reader.map, readName?_eq_none (.inl h)]
  rfl

end CompoundOf

/-- Conditions are written one behind the other. -/
theorem toList_renderSimple (simple : List Simple) :
    (renderSimple simple).toList = simple.flatMap (·.render.toList) := by
  rw [renderSimple, String.toList_join, List.flatMap_map]

/-- **Conditions are read** from their written form. -/
theorem readConditions?_append {simple : List Simple} (h : ArePlain simple) {rest : List Char}
    (hr : Ends rest) :
    readConditions? ((renderSimple simple).toList ++ rest) = some (simple, rest) := by
  obtain ⟨s, marks, rfl⟩ := List.exists_cons_of_ne_nil h.ne_nil
  have hplain := h.plain s List.mem_cons_self
  rw [toList_renderSimple, readConditions?]
  refine readCompoundOf_append (fun rest hrest => ?_)
    (fun x hx rest hrest => readMark?_append (h.plain x (List.mem_cons_of_mem s hx))
      (h.isType_tail x hx) hrest)
    (fun x hx => Simple.opens (h.isType_tail x hx)) hr (readMark?_eq_none hr)
  cases hs : s.isType with
  | false => rw [readFirst_of_opens ((Simple.opens hs).append rest), readMark?_append hplain hs hrest]
  | true =>
    cases s with
    | type name => exact readFirst_of_name hplain hrest
    | _ => simp [Simple.isType] at hs

/-! ### Parts of a compound -/

/-- **Arguments are read** behind the name that takes them, up to the closing parenthesis. -/
theorem readPseudoClass?_arguments {name : String} (hn : isPlainName name) {part : Part}
    {arguments : List Char} (rest : List Char)
    (h : readArguments? name (arguments ++ ')' :: rest) = some (part, ')' :: rest)) :
    readPseudoClass? (name.toList ++ '(' :: (arguments ++ ')' :: rest)) = some (part, rest) := by
  have hparen : ∀ c ∈ ('(' :: (arguments ++ ')' :: rest)).head?, isPlainChar c = false := by
    rintro c ⟨⟩
    decide
  simp [readPseudoClass?, readName?_append hn hparen, h]

/-- **A state is read** where no arguments follow. -/
theorem readPseudoClass?_state {name : String} (hn : isPlainName name) {rest : List Char}
    (hr : Follows rest) : readPseudoClass? (name.toList ++ rest) = some (.state name, rest) := by
  rw [readPseudoClass?, readName?_append hn fun c hc => (hr.head c hc).1]
  cases rest with
  | nil => rfl
  | cons c rest =>
    have hc := (hr.head c rfl).2
    simp only [Option.bind_eq_bind, Option.bind_some]
    split
    next h => exact absurd (List.cons.inj h).1 hc
    next => rfl

/-- One colon opens a pseudo-class. -/
theorem readPart?_colon {name : String} (hn : isPlainName name) (rest : List Char) :
    readPart? (':' :: (name.toList ++ rest)) = readPseudoClass? (name.toList ++ rest) := by
  obtain ⟨c, cs, hname, hc, -⟩ := exists_of_isPlainName hn
  have hcolon : c ≠ ':' := by
    rintro rfl
    exact absurd hc (by decide)
  rw [hname, List.cons_append, readPart?]
  rintro cs' heq
  exact hcolon (List.cons.inj heq).1

/-- **A pseudo-class is read** with its arguments, whatever they are written like. -/
theorem readPart?_arguments {part : Part} (name : String) (arguments : List Char)
    (hn : isPlainName name) {rest : List Char}
    (hw : part.render.toList = ':' :: (name.toList ++ '(' :: (arguments ++ [')'])))
    (h : readArguments? name (arguments ++ ')' :: rest) = some (part, ')' :: rest)) :
    readPart? (part.render.toList ++ rest) = some (part, rest) := by
  have htext : part.render.toList ++ rest =
      ':' :: (name.toList ++ '(' :: (arguments ++ ')' :: rest)) := by
    simp [hw]
  rw [htext, readPart?_colon hn, readPseudoClass?_arguments hn rest h]

/-- A pseudo-class that takes a number is read. -/
theorem readPart?_counted {part : Part} (name : String) (k : Nat) {sense : Nat → Part}
    (hn : isPlainName name) (hread : readArguments? name = readNumber?.map sense)
    (hpart : part = sense k)
    (hw : part.render = ":" ++ name ++ "(" ++ toString k ++ ")") (rest : List Char) :
    readPart? (part.render.toList ++ rest) = some (part, rest) := by
  have hdigit : ∀ c ∈ (')' :: rest).head?, c.isDigit = false := by
    rintro c ⟨⟩
    decide
  refine readPart?_arguments name (toString k).toList hn (by simp [hw]) ?_
  rw [hread, hpart, Reader.map, readNumber?_append k hdigit, Option.map_some]

/-- A pseudo-class that takes conditions is read. -/
theorem readPart?_conditional {part : Part} (name : String) (inner : List Simple)
    {sense : List Simple → Part} (hinner : ArePlain inner)
    (hn : isPlainName name) (hread : readArguments? name = readConditions?.map sense)
    (hpart : part = sense inner)
    (hw : part.render = ":" ++ name ++ "(" ++ renderSimple inner ++ ")") (rest : List Char) :
    readPart? (part.render.toList ++ rest) = some (part, rest) := by
  have hparen : Ends (')' :: rest) := by
    rintro c ⟨⟩
    decide
  refine readPart?_arguments name (renderSimple inner).toList hn (by simp [hw]) ?_
  rw [hread, hpart, Reader.map, readConditions?_append hinner hparen, Option.map_some]

/-- Behind a mark that is no colon, a part is a simple selector. -/
theorem readPart?_simple {s : Simple} (h : s.IsPlain) (hs : s.isType = false) {rest : List Char}
    (hr : Follows rest) : readPart? (s.render.toList ++ rest) = some (.simple s, rest) := by
  have hread := readMark?_append h hs hr
  rw [readPart?, Reader.map, hread, Option.map_some]
  · intro cs heq
    rw [heq] at hread
    simp [readMark?] at hread
  · intro cs heq
    rw [heq] at hread
    simp [readMark?] at hread

/-- A part other than a type name starts with its mark. -/
theorem Part.opens {part : Part} (h : part.isType = false) : Opens part.render.toList := by
  cases part with
  | simple s => exact Simple.opens h
  | _ => exact ⟨':', _, by simp [render]; rfl, by decide⟩

/-- **A part of a compound is read** where its mark stands. -/
theorem readPart?_append {part : Part} (h : part.IsPlain) (ht : part.isType = false)
    {rest : List Char} (hr : Follows rest) :
    readPart? (part.render.toList ++ rest) = some (part, rest) := by
  cases part with
  | simple s => exact readPart?_simple h ht hr
  | state name =>
    have htext : (Part.state name).render.toList ++ rest = ':' :: (name.toList ++ rest) := by
      simp [Part.render]
    rw [htext, readPart?_colon h, readPseudoClass?_state h hr]
  | nthChild k => exact readPart?_counted "nth-child" k (by decide) rfl rfl rfl rest
  | nthOfType k => exact readPart?_counted "nth-of-type" k (by decide) rfl rfl rfl rest
  | has inner => exact readPart?_conditional "has" inner h (by decide) rfl rfl rfl rest
  | isNot inner => exact readPart?_conditional "not" inner h (by decide) rfl rfl rfl rest
  | isAny inner => exact readPart?_conditional "is" inner h (by decide) rfl rfl rfl rest
  | whereAny inner => exact readPart?_conditional "where" inner h (by decide) rfl rfl rfl rest
  | pseudoElement name =>
    have htext : (Part.pseudoElement name).render.toList ++ rest =
        ':' :: ':' :: (name.toList ++ rest) := by
      simp [Part.render]
    rw [htext, readPart?, Reader.map, readName?_append h fun c hc => (hr.head c hc).1,
      Option.map_some]

/-- No part is read at the end of a compound. -/
theorem readPart?_eq_none {cs : List Char} (h : Ends cs) : readPart? cs = none := by
  have hnone := readMark?_eq_none h
  rw [readPart?, Reader.map, hnone, Option.map_none]
  · rintro cs' rfl
    exact absurd (h ':' rfl) (by decide)
  · rintro cs' rfl
    exact absurd (h ':' rfl) (by decide)

/-- The parts of a compound are written one behind the other. -/
theorem Compound.toList_render (c : Compound) :
    c.render.toList = c.flatMap (·.render.toList) := by
  rw [render, String.toList_join, List.flatMap_map]

/-- **A compound is read** from its written form. -/
theorem readCompound?_append {c : Compound} (h : c.IsPlain) {rest : List Char} (hr : Ends rest) :
    readCompound? (c.render.toList ++ rest) = some (c, rest) := by
  obtain ⟨part, marks, rfl⟩ := List.exists_cons_of_ne_nil h.ne_nil
  have hplain := h.plain part List.mem_cons_self
  rw [Compound.toList_render, readCompound?]
  refine readCompoundOf_append (fun rest hrest => ?_)
    (fun x hx rest hrest => readPart?_append (h.plain x (List.mem_cons_of_mem part hx))
      (h.isType_tail x hx) hrest)
    (fun x hx => Part.opens (h.isType_tail x hx)) hr (readPart?_eq_none hr)
  cases hp : part.isType with
  | false => rw [readFirst_of_opens ((Part.opens hp).append rest), readPart?_append hplain hp hrest]
  | true =>
    cases part with
    | simple s =>
      cases s with
      | type name => exact readFirst_of_name hplain hrest
      | _ => simp [Part.isType, Simple.isType] at hp
    | _ => simp [Part.isType] at hp

/-! ### Selectors -/

/-- A plain compound starts with a letter or a mark, so with no part of a combinator. -/
theorem Compound.IsPlain.exists_cons {c : Compound} (h : c.IsPlain) :
    ∃ x cs, c.render.toList = x :: cs ∧ x ∉ [' ', '>', '+'] := by
  obtain ⟨part, marks, rfl⟩ := List.exists_cons_of_ne_nil h.ne_nil
  have hplain := h.plain part List.mem_cons_self
  rw [Compound.toList_render, List.flatMap_cons]
  cases hp : part.isType with
  | false =>
    obtain ⟨x, cs, hcs, hx⟩ := Part.opens hp
    have hall : ∀ x ∈ ['#', '.', '[', ':'], x ∉ [' ', '>', '+'] :=
      List.all_iff_forall_prop.1 (by decide)
    exact ⟨x, _, by rw [hcs]; rfl, hall x hx⟩
  | true =>
    cases part with
    | simple s =>
      cases s with
      | type name =>
        obtain ⟨x, cs, hcs, hx, -⟩ := exists_of_isPlainName hplain
        have hall : ∀ x ∈ [' ', '>', '+'], ¬ isAsciiLetter x :=
          List.all_iff_forall_prop.1 (by decide)
        exact ⟨x, _, by rw [Part.render, Simple.render, hcs]; rfl, fun hm => hall x hm hx⟩
      | _ => simp [Part.isType, Simple.isType] at hp
    | _ => simp [Part.isType] at hp

/-- **A combinator is read** in front of a compound. -/
theorem readCombinator?_append (between : Combinator) {x : Char} (hx : x ∉ [' ', '>', '+'])
    (cs : List Char) :
    readCombinator? (between.render.toList ++ x :: cs) = some (between, x :: cs) := by
  simp only [List.mem_cons, List.not_mem_nil, or_false, not_or] at hx
  cases between with
  | descendant =>
    have htext : Combinator.descendant.render.toList ++ x :: cs = ' ' :: x :: cs := by
      simp [Combinator.render]
    rw [htext, readCombinator?]
    · rintro cs' heq
      exact hx.2.1 (List.cons.inj heq).1
    · rintro cs' heq
      exact hx.2.2 (List.cons.inj heq).1
  | child => simp [Combinator.render, readCombinator?]
  | nextSibling => simp [Combinator.render, readCombinator?]

/-- The written form of a step to the next compound. -/
def writeStep (step : Combinator × Compound) : List Char :=
  step.1.render.toList ++ step.2.render.toList

/-- **A step is read** from its written form. -/
theorem readStep?_append {step : Combinator × Compound} (h : step.2.IsPlain) {rest : List Char}
    (hr : Ends rest) : readStep? (writeStep step ++ rest) = some (step, rest) := by
  obtain ⟨x, cs, hcs, hx⟩ := h.exists_cons
  have hcombinator : readCombinator? (writeStep step ++ rest) =
      some (step.1, step.2.render.toList ++ rest) := by
    rw [writeStep, List.append_assoc, hcs, List.cons_append]
    exact readCombinator?_append step.1 hx _
  rw [readStep?, hcombinator]
  simp [Reader.map, readCompound?_append h hr]

/-- A step starts with a blank. -/
theorem exists_writeStep (step : Combinator × Compound) : ∃ cs, writeStep step = ' ' :: cs := by
  obtain ⟨between, c⟩ := step
  cases between <;> exact ⟨_, by simp [writeStep, Combinator.render]; rfl⟩

/-- The first compound is written, then each step. -/
theorem toList_render (s : Selector) :
    s.render.toList = s.first.render.toList ++ s.rest.flatMap writeStep := by
  simp [render, String.toList_join, List.flatMap_map]
  rfl

/-- **A plain selector is read back** from its written form. -/
theorem read?_render {s : Selector} (h : s.IsPlain) : read? s.render = some s := by
  have hgood : ∀ step ∈ s.rest, ∀ rest, Ends (writeStep step ++ rest) := by
    intro step _ rest
    obtain ⟨cs, hcs⟩ := exists_writeStep step
    rw [hcs]
    rintro c ⟨⟩
    decide
  have hnil : Ends [] := by simp [Ends]
  have hrest : Ends (s.rest.flatMap writeStep ++ []) := good_flatMap_append hgood hnil
  have hne : ∀ step ∈ s.rest, writeStep step ≠ [] := by
    intro step _
    obtain ⟨cs, hcs⟩ := exists_writeStep step
    rw [hcs]
    exact List.cons_ne_nil _ cs
  have hlen := length_le_length_flatMap hne []
  have hmany := Reader.many_append (fun step hs rest hr => readStep?_append (h.rest step hs) hr)
    hgood hnil rfl hlen
  rw [List.append_nil] at hmany hrest
  rw [read?, toList_render, readCompound?_append h.first hrest]
  simp only [hmany]

/-- **The written form has one meaning**: plain selectors that are written alike are equal. -/
theorem eq_of_render_eq {s t : Selector} (hs : s.IsPlain) (ht : t.IsPlain)
    (h : s.render = t.render) : s = t := by
  have heq := congrArg read? h
  rw [read?_render hs, read?_render ht] at heq
  exact Option.some.inj heq

end SelectorFinder.Selector
