import Mathlib.Data.List.Chain
import SelectorFinder.Proofs.Selector.Reading

/-!
# A Grammar of Written Selectors

The selectors of which the weight is known from their structure: compounds joined by
combinators, a compound being a tag, if any, with ids, classes, attributes, pseudo-classes and
the four pseudo-elements that weigh nothing. A pseudo-class may take a number or a list of
compounds without pseudo-classes and pseudo-elements. A compound may also be empty. Such a
selector is written as a sequence of lexemes; its counts are counts of lexemes, those of
arguments included.

## Main results

* `Complex.isWritten_lexemes`: in a written selector a word stands at the start or behind a gap, and
  parentheses hold the arguments of a pseudo-class.
-/

namespace SelectorFinder.Selector.Grammar

open SelectorFinder.Text

/-! ### Words and names -/

/-- Letters and digits, one at least. -/
structure Word where
  chars : List Char
  ne_nil : chars ≠ []
  alphanumeric : ∀ c ∈ chars, isAsciiAlphanumeric c = true

/-- **A tag**: words joined by hyphens, the first of which starts with a letter. -/
structure Tag where
  first : Word
  more : List Word
  letter : ∀ c ∈ first.chars.head?, isAsciiLetter c = true

/-- **A name**: letters, digits, hyphens and underscores, one at least. -/
structure Name where
  chars : List Char
  ne_nil : chars ≠ []
  plain : ∀ c ∈ chars, isPlainChar c = true

/-- The value of an attribute: any characters but the closing bracket. -/
structure Value where
  chars : List Char
  notMem : ']' ∉ chars

/-- A number in decimal digits. -/
structure Digits where
  chars : List Char
  digit : ∀ c ∈ chars, c.isDigit = true

/-- What separates the compounds of an argument: commas and blanks. -/
structure Separator where
  chars : List Char
  ne_nil : chars ≠ []
  plain : ∀ c ∈ chars, c ∈ [',', ' ']

/-- The pseudo-elements that weigh nothing. -/
inductive PseudoElement where
  | before
  | after
  | firstLetter
  | firstLine

/-! ### Selectors -/

/-- A condition on an element by itself. -/
inductive Condition where
  | id (name : Name)
  | className (name : Name)
  | attr (name : Name) (value : Option Value)

/-- A compound without pseudo-classes and pseudo-elements. -/
structure BareCompound where
  tag : Option Tag
  conditions : List Condition

/-- The argument of a pseudo-class. -/
inductive Argument where
  | number (digits : Digits)
  | list (first : BareCompound) (more : List (Separator × BareCompound))

/-- A part of a compound behind its tag. -/
inductive Feature where
  | condition (c : Condition)
  | pseudoClass (name : Name) (argument : Option Argument)
  | pseudoElement (e : PseudoElement)

/-- A compound. -/
structure Compound where
  tag : Option Tag
  features : List Feature

/-- How compounds are joined. -/
inductive Joint where
  | descendant
  | child
  | nextSibling
  | laterSibling

/-- **A selector**: compounds, joined. -/
structure Complex where
  first : Compound
  rest : List (Joint × Compound)

/-! ### Lexemes -/

/-- What marks a name. -/
inductive Mark where
  | id
  | className
  | pseudoClass
  deriving DecidableEq

/-- Characters that stand between compounds. -/
structure Gap where
  chars : List Char
  ne_nil : chars ≠ []
  plain : ∀ c ∈ chars, c ∈ [',', ' ', '>', '+', '~']

/-- The smallest parts of a written selector. -/
inductive Lexeme where
  | tag (t : Tag)
  | named (mark : Mark) (name : Name)
  | attr (name : Name) (value : Option Value)
  | pseudoElement (e : PseudoElement)
  | number (digits : Digits)
  | opening
  | closing
  | gap (g : Gap)

/-- A separator between the compounds of an argument. -/
def Separator.gap (s : Separator) : Gap where
  chars := s.chars
  ne_nil := s.ne_nil
  plain c hc := List.mem_append_left ['>', '+', '~'] (s.plain c hc)

/-- What is written between two compounds. -/
def Joint.gap : Joint → Gap
  | descendant => ⟨[' '], by decide, by simp⟩
  | child => ⟨[' ', '>', ' '], by decide, by simp⟩
  | nextSibling => ⟨[' ', '+', ' '], by decide, by simp⟩
  | laterSibling => ⟨[' ', '~', ' '], by decide, by simp⟩

/-- The lexeme of a condition. -/
def Condition.lexeme : Condition → Lexeme
  | id name => .named .id name
  | className name => .named .className name
  | attr name value => .attr name value

/-- The lexemes of a compound without arguments, its tag first. -/
def BareCompound.lexemes (c : BareCompound) : List Lexeme :=
  c.tag.toList.map .tag ++ c.conditions.map Condition.lexeme

/-- The lexemes of an argument. -/
def Argument.lexemes : Argument → List Lexeme
  | number digits => [.number digits]
  | list first more => first.lexemes ++ more.flatMap fun (s, c) => .gap s.gap :: c.lexemes

/-- The lexemes of a feature; arguments stand between parentheses. -/
def Feature.lexemes : Feature → List Lexeme
  | condition c => [c.lexeme]
  | pseudoClass name none => [.named .pseudoClass name]
  | pseudoClass name (some argument) =>
    .named .pseudoClass name :: .opening :: (argument.lexemes ++ [.closing])
  | pseudoElement e => [.pseudoElement e]

/-- The lexemes of a compound: its tag, and those of its features in their order. -/
def Compound.lexemes (c : Compound) : List Lexeme :=
  c.tag.toList.map .tag ++ c.features.flatMap Feature.lexemes

/-- **The lexemes of a selector**, from left to right. -/
def Complex.lexemes (s : Complex) : List Lexeme :=
  s.first.lexemes ++ s.rest.flatMap fun (joint, c) => .gap joint.gap :: c.lexemes

/-! ### The written form -/

/-- The characters of a tag. -/
def Tag.chars (t : Tag) : List Char :=
  t.first.chars ++ t.more.flatMap fun w => '-' :: w.chars

/-- The name of a pseudo-element. -/
def PseudoElement.name : PseudoElement → List Char
  | before => "before".toList
  | after => "after".toList
  | firstLetter => "first-letter".toList
  | firstLine => "first-line".toList

/-- The character that stands for a mark. -/
def Mark.char : Mark → Char
  | id => '#'
  | className => '.'
  | pseudoClass => ':'

/-- What stands between the brackets of an attribute. -/
def attributeChars (name : Name) : Option Value → List Char
  | none => name.chars
  | some value => name.chars ++ '=' :: '"' :: (value.chars ++ ['"'])

/-- The characters of a lexeme. -/
def Lexeme.chars : Lexeme → List Char
  | tag t => t.chars
  | named mark name => mark.char :: name.chars
  | attr name value => '[' :: (attributeChars name value ++ [']'])
  | pseudoElement e => ':' :: ':' :: e.name
  | number digits => digits.chars
  | opening => ['(']
  | closing => [')']
  | gap g => g.chars

/-- **The written form of a selector.** -/
def Complex.render (s : Complex) : String :=
  String.ofList (s.lexemes.flatMap Lexeme.chars)

/-! ### Counts -/

/-- The words that name no element: those of a selector's own syntax. -/
def keywordNames : List String :=
  ["and", "or", "not", "from", "to", "of"]

/-- Whether a tag names an element, the case of its letters ignored. -/
def Tag.namesElement (t : Tag) : Bool :=
  !keywordNames.contains (String.ofList (t.chars.map Char.toLower))

namespace Lexeme

/-- A name with the given mark. -/
def hasMark (mark : Mark) : Lexeme → Bool
  | named m _ => m == mark
  | _ => false

/-- Whether a lexeme is an attribute. -/
def isAttribute : Lexeme → Bool
  | attr _ _ => true
  | _ => false

/-- A tag that names an element. -/
def namesElement : Lexeme → Bool
  | tag t => t.namesElement
  | _ => false

end Lexeme

namespace Complex

/-- How many ids there are. -/
def ids (s : Complex) : Nat :=
  s.lexemes.countP (·.hasMark .id)

/-- How many classes, attributes and pseudo-classes there are. -/
def classes (s : Complex) : Nat :=
  s.lexemes.countP (·.hasMark .className) + s.lexemes.countP (·.isAttribute) +
    s.lexemes.countP (·.hasMark .pseudoClass)

/-- How many tags there are, those apart that are keywords. -/
def elements (s : Complex) : Nat :=
  s.lexemes.countP (·.namesElement)

end Complex

/-! ### The order of lexemes -/

namespace Lexeme

/-- A tag or a number, which a name in front of it would swallow. -/
def isWord : Lexeme → Bool
  | tag _ => true
  | number _ => true
  | _ => false

/-- What parts words from names: a gap or a parenthesis. -/
def isBreak : Lexeme → Bool
  | opening => true
  | closing => true
  | gap _ => true
  | _ => false

/-- Whether a lexeme is a parenthesis. -/
def isParenthesis : Lexeme → Bool
  | opening => true
  | closing => true
  | _ => false

/-- **Words stand behind breaks**, if anything is in front of them at all. -/
def MayPrecede (l l' : Lexeme) : Prop :=
  l'.isWord = true → l.isBreak = true

end Lexeme

/-- No word comes first. -/
def NoWordFirst (ls : List Lexeme) : Prop :=
  ∀ l ∈ ls.head?, l.isWord = false

/-- Lexemes among which there is neither a parenthesis nor a pseudo-class. -/
def AreBare (ls : List Lexeme) : Prop :=
  ∀ l ∈ ls, l.isParenthesis = false ∧ l.hasMark .pseudoClass = false

/-- **Parentheses hold arguments**: they come in pairs, the first of a pair right behind a
pseudo-class, and between the two there is neither a parenthesis nor a pseudo-class. -/
inductive Balanced : List Lexeme → Prop
  | nil : Balanced []
  | cons {l : Lexeme} {ls : List Lexeme} :
      l.isParenthesis = false → Balanced ls → Balanced (l :: ls)
  | argument {name : Name} {inner ls : List Lexeme} :
      AreBare inner → Balanced ls →
      Balanced (.named .pseudoClass name :: .opening :: (inner ++ .closing :: ls))

/-- **The order of lexemes** in a written selector. -/
structure IsWritten (ls : List Lexeme) : Prop where
  chain : ls.IsChain Lexeme.MayPrecede
  balanced : Balanced ls

/-- Balanced lexemes stay balanced when more of them follow. -/
theorem Balanced.append {ls ls' : List Lexeme} (h : Balanced ls) (h' : Balanced ls') :
    Balanced (ls ++ ls') := by
  induction h with
  | nil => exact h'
  | cons hl _ ih => exact .cons hl ih
  | argument hinner _ ih => simpa using Balanced.argument hinner ih

/-- Lexemes other than parentheses are balanced. -/
theorem balanced_of_forall {ls : List Lexeme} (h : ∀ l ∈ ls, l.isParenthesis = false) :
    Balanced ls := by
  induction ls with
  | nil => exact .nil
  | cons l ls ih =>
    exact .cons (h l List.mem_cons_self) (ih fun l' hl => h l' (List.mem_cons_of_mem l hl))

/-- A word never follows where no word comes first. -/
theorem NoWordFirst.mayPrecede {ls : List Lexeme} (h : NoWordFirst ls) (l : Lexeme) :
    ∀ l' ∈ ls.head?, l.MayPrecede l' := by
  intro l' hl' hword
  simp [h l' hl'] at hword

/-- Lexemes of which none but the first is a word are in order. -/
theorem isChain_of_forall {ls : List Lexeme} (h : ∀ l ∈ ls.tail, l.isWord = false) :
    ls.IsChain Lexeme.MayPrecede := by
  induction ls with
  | nil => exact .nil
  | cons l ls ih =>
    have hfirst : NoWordFirst ls := fun l' hl' => h l' (List.mem_of_mem_head? hl')
    exact List.isChain_cons.2
      ⟨hfirst.mayPrecede l, ih fun l' hl' => h l' (List.mem_of_mem_tail hl')⟩

/-- A chain may follow another one, unless it starts with a word. -/
theorem isChain_append {ls ls' : List Lexeme} (h : ls.IsChain Lexeme.MayPrecede)
    (h' : ls'.IsChain Lexeme.MayPrecede) (hw : NoWordFirst ls') :
    (ls ++ ls').IsChain Lexeme.MayPrecede :=
  h.append h' fun l _ => hw.mayPrecede l

/-- A break may stand before any chain. -/
theorem isChain_cons_of_isBreak {l : Lexeme} {ls : List Lexeme} (hl : l.isBreak = true)
    (h : ls.IsChain Lexeme.MayPrecede) : (l :: ls).IsChain Lexeme.MayPrecede :=
  List.isChain_cons.2 ⟨fun _ _ _ => hl, h⟩

/-- What comes first in a list and in what follows it when it is empty comes first in the two
together. -/
theorem forall_mem_head?_append {α : Type} {P : α → Prop} {xs ys : List α}
    (hx : ∀ x ∈ xs.head?, P x) (hy : xs = [] → ∀ y ∈ ys.head?, P y) :
    ∀ z ∈ (xs ++ ys).head?, P z := by
  cases xs with
  | nil => exact hy rfl
  | cons x xs => exact hx

/-- Where neither of two starts with a word, both together do not. -/
theorem NoWordFirst.append {ls ls' : List Lexeme} (h : NoWordFirst ls) (h' : NoWordFirst ls') :
    NoWordFirst (ls ++ ls') :=
  forall_mem_head?_append h fun _ => h'

namespace IsWritten

/-- No lexemes are written well. -/
theorem nil : IsWritten [] :=
  ⟨.nil, .nil⟩

/-- **Lexemes go on** with others that do not start with a word. -/
theorem append {ls ls' : List Lexeme} (h : IsWritten ls) (h' : IsWritten ls')
    (hw : NoWordFirst ls') : IsWritten (ls ++ ls') :=
  ⟨isChain_append h.chain h'.chain hw, h.balanced.append h'.balanced⟩

/-- A gap may be followed by anything. -/
theorem gap {ls : List Lexeme} (h : IsWritten ls) (g : Gap) : IsWritten (.gap g :: ls) :=
  ⟨isChain_cons_of_isBreak rfl h.chain, .cons rfl h.balanced⟩

/-- Stretches behind a gap each go on from one another. -/
theorem flatMap_gap {α : Type} {xs : List α} {g : α → Gap} {f : α → List Lexeme}
    (h : ∀ x ∈ xs, IsWritten (f x)) :
    IsWritten (xs.flatMap fun x => .gap (g x) :: f x) ∧
      NoWordFirst (xs.flatMap fun x => .gap (g x) :: f x) := by
  induction xs with
  | nil => exact ⟨nil, by simp [NoWordFirst]⟩
  | cons x xs ih =>
    obtain ⟨hxs, hw⟩ := ih fun y hy => h y (List.mem_cons_of_mem x hy)
    refine ⟨((h x List.mem_cons_self).gap (g x)).append hxs hw, ?_⟩
    rintro l ⟨⟩
    rfl

end IsWritten

/-! ### Selectors are in order -/

/-- Lexemes other than words and parentheses may stand in any order. -/
theorem isWritten_of_forall {ls : List Lexeme}
    (h : ∀ l ∈ ls, l.isWord = false ∧ l.isParenthesis = false) :
    IsWritten ls ∧ NoWordFirst ls :=
  ⟨⟨isChain_of_forall fun l hl => (h l (List.mem_of_mem_tail hl)).1,
    balanced_of_forall fun l hl => (h l hl).2⟩, fun l hl => (h l (List.mem_of_mem_head? hl)).1⟩

/-- **A tag in front** of lexemes of which the first is no word. -/
theorem isWritten_tag (tag : Option Tag) {ls : List Lexeme} (h : IsWritten ls)
    (hw : NoWordFirst ls) : IsWritten (tag.toList.map .tag ++ ls) := by
  refine IsWritten.append ⟨isChain_of_forall ?_, balanced_of_forall ?_⟩ h hw
  · cases tag <;> simp
  · cases tag <;> simp [Lexeme.isParenthesis]

/-- A condition is neither a word nor a parenthesis nor a pseudo-class. -/
theorem Condition.lexeme_facts (c : Condition) :
    c.lexeme.isWord = false ∧ c.lexeme.isParenthesis = false ∧
      c.lexeme.hasMark .pseudoClass = false := by
  cases c <;> exact ⟨rfl, rfl, rfl⟩

/-- A compound without arguments is written well. -/
theorem BareCompound.isWritten_lexemes (c : BareCompound) : IsWritten c.lexemes := by
  have hconditions : ∀ l ∈ c.conditions.map Condition.lexeme,
      l.isWord = false ∧ l.isParenthesis = false :=
    List.forall_mem_map.2 fun d _ => ⟨d.lexeme_facts.1, d.lexeme_facts.2.1⟩
  obtain ⟨h, hw⟩ := isWritten_of_forall hconditions
  exact isWritten_tag c.tag h hw

/-- None of its lexemes takes arguments. -/
theorem BareCompound.areBare_lexemes (c : BareCompound) : AreBare c.lexemes := by
  refine List.forall_mem_append.2 ⟨List.forall_mem_map.2 fun t _ => ⟨rfl, rfl⟩, ?_⟩
  exact List.forall_mem_map.2 fun d _ => d.lexeme_facts.2

/-- An argument is written well. -/
theorem Argument.isWritten_lexemes (a : Argument) : IsWritten a.lexemes := by
  cases a with
  | number digits => exact ⟨.singleton _, .cons rfl .nil⟩
  | list first more =>
    obtain ⟨h, hw⟩ := IsWritten.flatMap_gap (g := fun m : Separator × BareCompound => m.1.gap)
      (f := fun m => m.2.lexemes) fun m (_ : m ∈ more) => m.2.isWritten_lexemes
    exact first.isWritten_lexemes.append h hw

/-- An argument has no arguments itself. -/
theorem Argument.areBare_lexemes (a : Argument) : AreBare a.lexemes := by
  cases a with
  | number digits => exact List.forall_mem_singleton.2 ⟨rfl, rfl⟩
  | list first more =>
    refine List.forall_mem_append.2 ⟨first.areBare_lexemes, fun l hl => ?_⟩
    obtain ⟨m, -, hl⟩ := List.mem_flatMap.1 hl
    rcases List.mem_cons.1 hl with rfl | hl
    · exact ⟨rfl, rfl⟩
    · exact m.2.areBare_lexemes l hl

/-- **The lexemes of a feature** are in order, and no word comes first. -/
theorem Feature.isWritten_lexemes (f : Feature) : IsWritten f.lexemes ∧ NoWordFirst f.lexemes := by
  cases f with
  | condition c =>
    exact isWritten_of_forall
      (List.forall_mem_singleton.2 ⟨c.lexeme_facts.1, c.lexeme_facts.2.1⟩)
  | pseudoElement e => exact isWritten_of_forall (List.forall_mem_singleton.2 ⟨rfl, rfl⟩)
  | pseudoClass name argument =>
    cases argument with
    | none => exact isWritten_of_forall (List.forall_mem_singleton.2 ⟨rfl, rfl⟩)
    | some a =>
      have hclosing : NoWordFirst [.closing] := by
        rintro l ⟨⟩
        rfl
      have hopening : NoWordFirst (.opening :: (a.lexemes ++ [.closing])) := by
        rintro l ⟨⟩
        rfl
      have hinner := isChain_append a.isWritten_lexemes.chain (.singleton _) hclosing
      refine ⟨⟨List.isChain_cons.2 ⟨hopening.mayPrecede _, ?_⟩, ?_⟩, ?_⟩
      · exact isChain_cons_of_isBreak rfl hinner
      · exact .argument a.areBare_lexemes .nil
      · rintro l ⟨⟩
        rfl

/-- A compound is written well. -/
theorem Compound.isWritten_lexemes (c : Compound) : IsWritten c.lexemes := by
  have hfeatures : ∀ fs : List Feature, IsWritten (fs.flatMap Feature.lexemes) ∧
      NoWordFirst (fs.flatMap Feature.lexemes) := by
    intro fs
    induction fs with
    | nil => exact ⟨.nil, by simp [NoWordFirst]⟩
    | cons f fs ih =>
      obtain ⟨hf, hword⟩ := f.isWritten_lexemes
      exact ⟨hf.append ih.1 ih.2, hword.append ih.2⟩
  obtain ⟨h, hw⟩ := hfeatures c.features
  exact isWritten_tag c.tag h hw

/-- **The lexemes of a selector are in order.** -/
theorem Complex.isWritten_lexemes (s : Complex) : IsWritten s.lexemes := by
  obtain ⟨h, hw⟩ := IsWritten.flatMap_gap (g := fun step : Joint × Compound => step.1.gap)
    (f := fun step => step.2.lexemes) fun step (_ : step ∈ s.rest) => step.2.isWritten_lexemes
  exact s.first.isWritten_lexemes.append h hw

end SelectorFinder.Selector.Grammar
