import SelectorFinder.Proofs.Inspection.Selecting
import SelectorFinder.Proofs.Selector.Counting

/-!
# The Weight of Data Attributes

The candidate that is built on the `data-` attributes of an element puts their values between
quotes and brackets as they are. The scan that weighs it knows brackets but no quotes: a bracket
is closed by the first closing bracket, also inside a value, and what stands behind that one is
scanned once more. So the attributes and nothing else count, whatever the values hold, as long
as they do not hold a closing bracket.

## Main results

* `weigh_attributes`: a tag with attributes weighs one class for each of them, and one element.
* `attributes_weight`: so does the candidate for the `data-` attributes of an element.
* `attributes_weight_closed`: a value with a closing bracket that makes the candidate heavier.
-/

namespace SelectorFinder

open SelectorFinder.Dom SelectorFinder.Selector SelectorFinder.Text

namespace Selector.Grammar

/-! ### Tags in lower case -/

/-- Letters and digits stay such in lower case. -/
theorem isAsciiAlphanumeric_toLower {c : Char} (h : isAsciiAlphanumeric c = true) :
    isAsciiAlphanumeric c.toLower = true :=
  forall_ascii (P := fun c => isAsciiAlphanumeric c → isAsciiAlphanumeric c.toLower)
    (by decide) (lt_of_isPlainChar (isPlainChar_of_isAsciiAlphanumeric h)) h

/-- A word in lower case. -/
def Word.lower (w : Word) : Word where
  chars := w.chars.map Char.toLower
  ne_nil := by simpa using w.ne_nil
  alphanumeric := List.forall_mem_map.2 fun c hc =>
    isAsciiAlphanumeric_toLower (w.alphanumeric c hc)

/-- A tag in lower case. -/
def Tag.lower (t : Tag) : Tag where
  first := t.first.lower
  more := t.more.map Word.lower
  letter c hc := by
    have hmap : ∃ c' ∈ t.first.chars.head?, c'.toLower = c := by simpa [Word.lower] using hc
    obtain ⟨c', hc', rfl⟩ := hmap
    have hletter := t.letter c' hc'
    exact (plainChar_facts (isPlainChar_of_isAsciiLetter hletter)).2.1 hletter

/-- A tag in lower case is written in lower case. -/
theorem Tag.chars_lower (t : Tag) : t.lower.chars = t.chars.map Char.toLower := by
  simp [Tag.chars, Tag.lower, Word.lower, List.flatMap_map, List.map_flatMap]

/-- A tag names an element in lower case if it does so as it is. -/
theorem Tag.namesElement_lower (t : Tag) : t.lower.namesElement = t.namesElement := by
  have hchars : t.lower.chars.map Char.toLower = t.chars.map Char.toLower := by
    rw [Tag.chars_lower, List.map_map]
    exact List.map_congr_left fun c _ => toLower_toLower c
  rw [Tag.namesElement, Tag.namesElement, hchars]

/-! ### Attributes behind a tag -/

/-- **Attributes are lexemes**, one for each, if their names are plain and their values hold no
closing bracket. -/
theorem exists_lexemes {attributes : List (String × String)}
    (h : ∀ a ∈ attributes, a.1.toList ≠ [] ∧ (∀ c ∈ a.1.toList, isPlainChar c = true) ∧
      ']' ∉ a.2.toList) :
    ∃ ls : List Lexeme, ls.length = attributes.length ∧ (∀ l ∈ ls, l.isAttribute = true) ∧
      ls.flatMap Lexeme.chars =
        attributes.flatMap fun a => (Simple.attr a.1 a.2).render.toList := by
  induction attributes with
  | nil => exact ⟨[], rfl, by simp, rfl⟩
  | cons a attributes ih =>
    obtain ⟨⟨hne, hname, hvalue⟩, hrest⟩ := List.forall_mem_cons.1 h
    obtain ⟨ls, hlength, hattributes, hchars⟩ := ih hrest
    refine ⟨.attr ⟨a.1.toList, hne, hname⟩ (some ⟨a.2.toList, hvalue⟩) :: ls, by simp [hlength],
      List.forall_mem_cons.2 ⟨rfl, hattributes⟩, ?_⟩
    rw [List.flatMap_cons, List.flatMap_cons, hchars]
    simp [Lexeme.chars, attributeChars, Simple.render]

/-- **A tag with attributes** weighs one class for each attribute, and one element if the tag
names any. -/
theorem weigh_attributes (t : Tag) {ls : List Lexeme} (h : ∀ l ∈ ls, l.isAttribute = true) :
    weigh (t.chars ++ ls.flatMap Lexeme.chars) =
      ⟨0, 0, Weight.capped ls.length, if t.namesElement then 1 else 0⟩ := by
  have hnone : ∀ l ∈ ls, l.isWord = false ∧ l.isParenthesis = false ∧ l.namesElement = false ∧
      ∀ m, l.hasMark m = false := by
    intro l hl
    obtain ⟨name, value, rfl⟩ := Lexeme.isAttribute_iff.1 (h l hl)
    exact ⟨rfl, rfl, rfl, fun _ => rfl⟩
  obtain ⟨hwritten, hfirst⟩ := isWritten_of_forall fun l hl => ⟨(hnone l hl).1, (hnone l hl).2.1⟩
  have hmarks : ∀ m, ls.countP (·.hasMark m) = 0 := fun m =>
    List.countP_eq_zero.2 fun l hl => by simp [(hnone l hl).2.2.2 m]
  have hnames : ls.countP (·.namesElement) = 0 :=
    List.countP_eq_zero.2 fun l hl => by simp [(hnone l hl).2.2.1]
  have hattributes : ls.countP (·.isAttribute) = ls.length := List.countP_eq_length.2 h
  have htag : ∀ m, (Lexeme.tag t).hasMark m = false := fun _ => rfl
  have hnot : (Lexeme.tag t).isAttribute = false := rfl
  have hnaming : (Lexeme.tag t).namesElement = t.namesElement := rfl
  have hweight := weigh_lexemes (show IsWritten (.tag t :: ls) from
    isWritten_tag (some t) hwritten hfirst)
  simp only [List.flatMap_cons, List.countP_cons, hmarks, hnames, hattributes, htag, hnot,
    hnaming] at hweight
  rw [show t.chars = (Lexeme.tag t).chars from rfl, hweight]
  cases t.namesElement <;> simp [Weight.capped, Weight.limit]

end Selector.Grammar

/-! ### Data attributes -/

/-- **Closed data**: the tag is of words joined by hyphens and names an element, and the `data-`
attributes have plain names and values that hold no closing bracket. -/
structure Dom.Element.HasClosedData (e : Element) : Prop where
  tag : ∃ t : Grammar.Tag, e.tagName.toList = t.chars ∧ t.namesElement = true
  data : ∀ a ∈ e.dataAttributes, (∀ c ∈ a.1.toList, isPlainChar c = true) ∧ ']' ∉ a.2.toList

/-- A page with a single element, which has one `data-` attribute. -/
def Dom.Document.dataPage (value : String) : Document :=
  Document.empty |>.attach 0 (.element ⟨"div", .ofList [("data-x", value)]⟩)

namespace Inspection

open Strategy

namespace Vicinity

variable {v : Vicinity}

/-- The names of `data-` attributes are not empty. -/
theorem toList_ne_nil_of_mem_dataAttributes {a : String × String}
    (ha : a ∈ v.element.dataAttributes) : a.1.toList ≠ [] := by
  have hprefix : "data-".toList <+: a.1.toList :=
    String.startsWith_string_iff.1 (List.mem_filter.1 ha).2
  intro hnil
  rw [hnil, List.prefix_nil] at hprefix
  exact absurd hprefix (by decide)

/-- **The text of the data attributes** weighs one class for each, and one element. -/
theorem specificity_dataAttributes (h : v.element.HasClosedData) :
    specificity (ofCompound (tagged v ++
      v.dataAttributes.map fun (name, value) => .simple (.attr name value))).render =
        ⟨0, 0, Weight.capped v.element.dataAttributes.length, 1⟩ := by
  obtain ⟨t, htag, hnames⟩ := h.tag
  have hlower : v.tag.toList = t.lower.chars := by
    rw [tag, Element.localName, lower, String.toList_ofList, htag, Grammar.Tag.chars_lower]
  obtain ⟨ls, hlength, hattributes, hchars⟩ := Grammar.exists_lexemes fun a ha =>
    ⟨toList_ne_nil_of_mem_dataAttributes ha, h.data a ha⟩
  have htext : (ofCompound (tagged v ++
      v.dataAttributes.map fun (name, value) => .simple (.attr name value))).render.toList =
        t.lower.chars ++ ls.flatMap Grammar.Lexeme.chars := by
    rw [hchars, ← hlower, dataAttributes_eq]
    simp [Selector.render, ofCompound, Compound.render, tagged, Part.render, Simple.render,
      List.flatMap_map, String.toList_join]
  rw [specificity, htext, Grammar.weigh_attributes t.lower hattributes, hlength,
    Grammar.Tag.namesElement_lower, if_pos hnames]

end Vicinity

namespace Inspector

variable {d : Document} {n : NodeId} {e : Element}

/-- **The weight of the data attributes.** An element with closed data and with at least one
`data-` attribute has a candidate for them, and its weight is one class for each and one
element, for every boundary and with repeated texts or without, as long as there are not more
attributes than a weight can count. -/
theorem attributes_weight (he : d.element? n = some e) (h : e.HasClosedData)
    (hne : e.dataAttributes ≠ []) (hlimit : e.dataAttributes.length < Weight.limit)
    (boundary : Option NodeId) :
    (∃ c ∈ (repeating d boundary).candidates n, c.kind = .attributes) ∧
      ∀ choices, ∀ c ∈ (Inspector.mk d boundary choices).candidates n, c.kind = .attributes →
        c.weight = ⟨0, 0, e.dataAttributes.length, 1⟩ := by
  constructor
  · have hv : Vicinity.at? d boundary n = some ⟨d, boundary, n, e⟩ := by
      rw [Vicinity.at?, he, Option.map_some]
    have hdata : Vicinity.dataAttributes ⟨d, boundary, n, e⟩ ≠ [] := by
      rwa [Vicinity.dataAttributes_eq]
    exact ⟨_, mem_candidates_of_proposes hv (.attributes hdata), rfl⟩
  · intro choices c hc hk
    obtain ⟨v, hv, hproposed⟩ := exists_of_mem_candidates hc
    obtain ⟨rfl, -, rfl, hgenuine⟩ := Vicinity.at?_eq_some_iff.1 hv
    obtain rfl : v.element = e := Option.some.inj (hgenuine.symm.trans he)
    obtain ⟨q, hq, rfl⟩ := Vicinity.mem_candidates_iff.1 hproposed
    have hcapped : Weight.capped v.element.dataAttributes.length =
        v.element.dataAttributes.length :=
      Nat.min_eq_left (Nat.le_of_lt hlimit)
    cases hq with
    | attributes => exact hcapped ▸ Vicinity.specificity_dataAttributes h
    | _ => cases hk

/-- A value full of marks and open brackets: the candidate weighs one class and one element. -/
theorem attributes_weight_marks :
    ∃ c ∈ (repeating (Document.dataPage ".a#b:c[d(::before") none).candidates 1,
      c.kind = .attributes ∧ c.weight = ⟨0, 0, 1, 1⟩ := by
  have he : (Document.dataPage ".a#b:c[d(::before").element? 1 =
      some ⟨"div", .ofList [("data-x", ".a#b:c[d(::before")]⟩ := by
    decide
  have hdata : Element.dataAttributes ⟨"div", .ofList [("data-x", ".a#b:c[d(::before")]⟩ =
      [("data-x", ".a#b:c[d(::before")] := by
    decide +kernel
  have hclosed : Element.HasClosedData ⟨"div", .ofList [("data-x", ".a#b:c[d(::before")]⟩ :=
    ⟨⟨.ofLetters "div" (by decide) (by decide), rfl, by decide⟩, by
      rw [hdata]
      exact List.forall_mem_singleton.2 ⟨List.all_eq_true.1 (by decide), by decide⟩⟩
  obtain ⟨⟨c, hc, hk⟩, hweight⟩ :=
    attributes_weight he hclosed (by simp [hdata]) (by rw [hdata]; decide) none
  rw [hdata] at hweight
  exact ⟨c, hc, hk, hweight ⟨false⟩ c hc hk⟩

/-- **A value that closes the bracket** early: what stands behind it in the value is scanned once
more, and the candidate weighs one element too many. -/
theorem attributes_weight_closed :
    Document.TreeShaped (Document.dataPage "a]b") ∧
      ∃ c ∈ (repeating (Document.dataPage "a]b") none).candidates 1,
        c.kind = .attributes ∧ c.selector = "div[data-x=\"a]b\"]" ∧ c.weight = ⟨0, 0, 1, 2⟩ := by
  have htree : Document.TreeShaped (Document.dataPage "a]b") :=
    .attach .empty (by decide) (by decide)
  have hv : Vicinity.at? (Document.dataPage "a]b") none 1 = some ⟨Document.dataPage "a]b", none, 1,
      ⟨"div", .ofList [("data-x", "a]b")]⟩⟩ := rfl
  have hdata : Vicinity.dataAttributes ⟨Document.dataPage "a]b", none, 1,
      ⟨"div", .ofList [("data-x", "a]b")]⟩⟩ = [("data-x", "a]b")] := by
    decide +kernel
  refine ⟨htree, _, mem_candidates_of_proposes hv (.attributes (by rw [hdata]; simp)), rfl, ?_, ?_⟩
  · decide +kernel
  · decide +kernel

end Inspector

end Inspection

end SelectorFinder
