import SelectorFinder.Proofs.Dom.Siblings
import SelectorFinder.Proofs.Text.Tokens
import SelectorFinder.Selector.Syntax

/-!
# What a Selector Selects

The meaning of selectors over a document: a simple selector looks at one element, a
pseudo-class at the place of the element in the tree, and a selector as a whole at a chain of
elements, each of which stands to the one before as the combinator says. Pseudo-classes about
what the user does, and generated content, are not a matter of the tree; they hold of nothing
here.

Type names compare up to ASCII case, all else exactly. Which characters separate the names in
a `class` attribute is left open.

## Main results

* `holds_append`: a compound holds if each part of it does.
* `matches_pair`: what two joined compounds match.
* `matches_ofLevels_concat`: a path goes on with one more level.
-/

namespace SelectorFinder.Selector

open SelectorFinder.Dom SelectorFinder.Text

/-! ### Simple selectors -/

/-- **A simple selector holds** of an element with that type, that id, that class among the
tokens of its `class` attribute, or an attribute of that name and value. -/
def Simple.Holds (separates : Char → Bool) (e : Element) : Simple → Prop
  | type name => lower e.tagName = lower name
  | id name => e.attributes.get? "id" = some name
  | className name =>
    ∃ value, e.attributes.get? "class" = some value ∧
      IsToken separates value.toList name.toList
  | attr name value => (name, value) ∈ e.attributes.toList

/-- All of the simple selectors hold of the element at a node. -/
def HoldAt (separates : Char → Bool) (d : Document) (n : NodeId) (simple : List Simple) : Prop :=
  ∃ e, d.element? n = some e ∧ ∀ s ∈ simple, s.Holds separates e

/-! ### Places among siblings -/

/-- **The place**, counted from one, of a node among others. -/
def IsNth (among : List NodeId) (k : Nat) (n : NodeId) : Prop :=
  ∃ before after, among = before ++ n :: after ∧ k = before.length + 1

/-- Whether two nodes are elements of one type, up to the case of the tag. -/
def sameType (d : Document) (n m : NodeId) : Bool :=
  match d.element? n, d.element? m with
  | some e, some f => sameName f.tagName e.tagName
  | _, _ => false

/-- The places that pseudo-classes without arguments speak of, among the elements with the
same parent. -/
def HasPlace (name : String) (siblings : List NodeId) (n : NodeId) : Prop :=
  match name with
  | "first-child" => ∃ others, siblings = n :: others
  | "last-child" => ∃ others, siblings = others ++ [n]
  | "only-child" => siblings = [n]
  | _ => False

/-! ### Compounds -/

/-- **A part of a compound holds** of the element at a node. -/
def Part.Holds (separates : Char → Bool) (d : Document) (n : NodeId) : Part → Prop
  | simple s => HoldAt separates d n [s]
  | state name => ∃ p, d.parent? n = some p ∧ HasPlace name (d.elementChildren p) n
  | nthChild k => ∃ p, d.parent? n = some p ∧ IsNth (d.elementChildren p) k n
  | nthOfType k =>
    ∃ p, d.parent? n = some p ∧ IsNth ((d.elementChildren p).filter (sameType d n)) k n
  | has inner => ∃ m, d.IsAncestor n m ∧ HoldAt separates d m inner
  | isNot inner => ¬ HoldAt separates d n inner
  | isAny inner => HoldAt separates d n inner
  | whereAny inner => HoldAt separates d n inner
  | pseudoElement _ => False

/-- All parts of a compound hold of an element. -/
def Compound.Holds (separates : Char → Bool) (d : Document) (n : NodeId) (c : Compound) : Prop :=
  d.isElement n ∧ ∀ part ∈ c, part.Holds separates d n

/-! ### Combinators -/

/-- **How two nodes stand to each other**: the second is below the first, is a child of it, or
is the next element after it under the same parent. -/
def Combinator.Relates (d : Document) (m n : NodeId) : Combinator → Prop
  | descendant => d.IsAncestor m n
  | child => d.IsParent m n
  | nextSibling => ∃ p before after, d.parent? n = some p ∧
      d.elementChildren p = before ++ m :: n :: after

/-- A chain of compounds leads from one node to another. -/
def Leads (separates : Char → Bool) (d : Document) :
    NodeId → List (Combinator × Compound) → NodeId → Prop
  | m, [], n => m = n
  | m, (between, c) :: rest, n =>
    ∃ m', between.Relates d m m' ∧ c.Holds separates d m' ∧ Leads separates d m' rest n

/-- **A selector matches** a node to which its compounds lead. -/
def Matches (separates : Char → Bool) (d : Document) (s : Selector) (n : NodeId) : Prop :=
  ∃ m, s.first.Holds separates d m ∧ Leads separates d m s.rest n

/-! ### Selectors put together -/

variable {separates : Char → Bool} {d : Document} {m n : NodeId} {e : Element}

/-- Simple selectors are judged by the element that stands at the node. -/
theorem holdAt_iff (he : d.element? n = some e) {simple : List Simple} :
    HoldAt separates d n simple ↔ ∀ s ∈ simple, s.Holds separates e := by
  constructor
  · rintro ⟨f, hf, hs⟩
    obtain rfl : e = f := Option.some.inj (he.symm.trans hf)
    exact hs
  · exact fun hs => ⟨e, he, hs⟩

/-- Simple selectors hold as a compound as they hold by themselves. -/
theorem holds_ofSimple (he : d.element? n = some e) {simple : List Simple} :
    (Compound.ofSimple simple).Holds separates d n ↔ HoldAt separates d n simple := by
  rw [holdAt_iff he, Compound.Holds, Compound.ofSimple, List.forall_mem_map]
  constructor
  · rintro ⟨-, hs⟩ s hm
    exact (holdAt_iff he).1 (hs s hm) s (List.mem_singleton_self s)
  · intro hs
    refine ⟨Document.isElement_iff.2 ⟨e, he⟩, fun s hm => (holdAt_iff he).2 fun t ht => ?_⟩
    rw [List.mem_singleton.1 ht]
    exact hs s hm

/-- **Compounds put together** hold if each of them does. -/
theorem holds_append {c c' : Compound} :
    Compound.Holds separates d n (c ++ c') ↔ c.Holds separates d n ∧ c'.Holds separates d n := by
  simp only [Compound.Holds, List.forall_mem_append]
  constructor
  · rintro ⟨hn, h, h'⟩
    exact ⟨⟨hn, h⟩, hn, h'⟩
  · rintro ⟨⟨hn, h⟩, -, h'⟩
    exact ⟨hn, h, h'⟩

/-- A single compound matches where it holds. -/
theorem matches_ofCompound {c : Compound} :
    (ofCompound c).Matches separates d n ↔ c.Holds separates d n := by
  constructor
  · rintro ⟨m, hm, rfl⟩
    exact hm
  · exact fun h => ⟨n, h, rfl⟩

/-- Two compounds match where the second one holds, if the first holds at a node that is related. -/
theorem matches_pair {c c' : Compound} {between : Combinator} :
    (pair c between c').Matches separates d n ↔
      ∃ m, c.Holds separates d m ∧ between.Relates d m n ∧ c'.Holds separates d n := by
  constructor
  · rintro ⟨m, hm, n', hr, hc, rfl⟩
    exact ⟨m, hm, hr, hc⟩
  · rintro ⟨m, hm, hr, hc⟩
    exact ⟨m, hm, n, hr, hc, rfl⟩

/-- A chain goes on with one more step. -/
theorem Leads.concat {rest : List (Combinator × Compound)} {n' : NodeId}
    (h : Leads separates d m rest n') {between : Combinator} {c : Compound}
    (hr : between.Relates d n' n) (hc : c.Holds separates d n) :
    Leads separates d m (rest ++ [(between, c)]) n := by
  induction rest generalizing m with
  | nil =>
    obtain rfl := h
    exact ⟨n, hr, hc, rfl⟩
  | cons step rest ih =>
    obtain ⟨m', hr', hc', h⟩ := h
    exact ⟨m', hr', hc', ih h⟩

/-- **A path goes on with one more level** below the node that it has reached. -/
theorem matches_ofLevels_concat {levels : List Compound} (hne : levels ≠ [])
    (h : (ofLevels levels).Matches separates d m) (hm : d.IsAncestor m n) {c : Compound}
    (hc : c.Holds separates d n) : (ofLevels (levels ++ [c])).Matches separates d n := by
  obtain ⟨first, levels, rfl⟩ := List.exists_cons_of_ne_nil hne
  obtain ⟨top, htop, hl⟩ := h
  refine ⟨top, htop, ?_⟩
  simpa [ofLevels] using Leads.concat hl (show Combinator.Relates d m n .descendant from hm) hc

end Selector

end SelectorFinder
