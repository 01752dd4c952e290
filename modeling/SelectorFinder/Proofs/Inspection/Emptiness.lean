import SelectorFinder.Proofs.Html.Places
import SelectorFinder.Proofs.Inspection.Kinds

/-!
# Empty Elements of a Page

An element gets an `:empty` candidate when nothing is left of its children but comments. What
is left is decided twice: texts that are blank are dropped when the document is made, and the
text below the element is looked at again when candidates are proposed. Both take the same
characters for blank, so together they come to a condition on the page itself: no child is an
element, and every text child is blank.

Blank are all characters with the White_Space property. The white space of documents, which
`:empty` passes over, is only a part of them, so there are elements with an `:empty` candidate
that the selector does not match; a no-break space is enough.

## Main results

* `forall_addsNothing_iff`: what is kept of the children, against the children themselves.
* `empty_of_page`: which elements of a page have an `:empty` candidate.
* `empty_with_noBreakSpace`: one of them that `:empty` does not match.
-/

namespace SelectorFinder

open SelectorFinder.Dom SelectorFinder.Dom.Document SelectorFinder.Text

/-- The white space of documents: tab, line feed, form feed, carriage return and space. -/
def Text.isDocumentSpace (c : Char) : Bool :=
  c.toNat == 0x09 || c.toNat == 0x0A || c.toNat == 0x0C || c.toNat == 0x0D || c.toNat == 0x20

/-- Document white space is blank. -/
theorem Text.isBlank_of_isDocumentSpace {c : Char} (h : isDocumentSpace c = true) :
    isBlank c = true := by
  simp only [isDocumentSpace, Bool.or_eq_true, beq_iff_eq] at h
  simp only [isBlank, Bool.or_eq_true, Bool.and_eq_true, decide_eq_true_eq, beq_iff_eq]
  omega

namespace Html.Content

/-- **Children that leave an element empty**: no elements, and texts that consist of certain
characters only. -/
def areEmpty (white : Char → Bool) (children : List Content) : Bool :=
  children.all fun
    | .element .. => false
    | .text data => data.toList.all white
    | _ => true

/-- More characters leave more elements empty. -/
theorem areEmpty_mono {white white' : Char → Bool} {children : List Content}
    (hwhite : ∀ data, text data ∈ children → ∀ c ∈ data.toList, white c = true → white' c = true)
    (h : areEmpty white children) : areEmpty white' children := by
  simp only [areEmpty, List.all_eq_true] at h ⊢
  intro c hc
  have hempty := h c hc
  cases c with
  | text data => 
    simp only [List.all_eq_true] at hempty ⊢
    exact fun x hx => hwhite data hc x hx (hempty x hx)
  | _ => exact hempty

end Html.Content

namespace Dom.Document

/-- A node that is no element and no text, unless a blank one. -/
def AddsNothing (d : Document) (n : Nat) : Prop :=
  ¬ d.isElement n ∧ ∀ data, d.text? n = some data → isBlankText data

/-- A comment adds nothing. -/
theorem addsNothing_of_comment {d : Document} {n : Nat} {data : String}
    (h : d.kind? n = some (.comment data)) : d.AddsNothing n := by
  simp [AddsNothing, isElement, element?, text?, h]

/-- An element does. -/
theorem not_addsNothing_of_element {d : Document} {n : Nat} {e : Element}
    (h : d.kind? n = some (.element e)) : ¬ d.AddsNothing n := by
  simp [AddsNothing, isElement, element?, h]

/-- A text adds nothing if it is blank. -/
theorem addsNothing_of_text_iff {d : Document} {n : Nat} {data : String}
    (h : d.kind? n = some (.text data)) : d.AddsNothing n ↔ isBlankText data := by
  simp [AddsNothing, isElement, element?, text?, h]

/-- **What is kept of the children adds nothing** exactly if the children leave their parent
empty: the texts that are dropped are those that would not count. -/
theorem forall_addsNothing_iff {d : Document} (children : List Html.Content) {n : Nat}
    (h : d.NumberedAll n (Html.Content.partsAll Html.isKept children)) :
    (∀ m ∈ Branch.starts n (Html.Content.partsAll Html.isKept children), d.AddsNothing m) ↔
      Html.Content.areEmpty isBlank children := by
  induction children generalizing n with
  | nil => simp [Html.Content.partsAll, Branch.starts, Html.Content.areEmpty]
  | cons c children ih =>
    rw [Html.Content.partsAll, numberedAll_append] at h
    obtain ⟨hfirst, hrest⟩ := h
    rw [Html.Content.partsAll, Branch.starts_append, List.forall_mem_append, ih hrest,
      Html.Content.areEmpty, Html.Content.areEmpty, List.all_cons, Bool.and_eq_true]
    refine and_congr_left fun _ => ?_
    cases c with
    | text data =>
      by_cases hblank : isBlankText data = true
      · have hdropped : Html.Content.parts Html.isKept (.text data) = [] := by
          simp [Html.Content.parts, Html.isKept, hblank]
        rw [hdropped]
        exact iff_of_true (List.forall_mem_nil _) hblank
      · have hkept : Html.Content.parts Html.isKept (.text data) = [.text data] := by
          simp [Html.Content.parts, Html.isKept, hblank]
        rw [hkept] at hfirst ⊢
        rw [Branch.starts, Branch.starts, List.forall_mem_singleton]
        exact addsNothing_of_text_iff hfirst.1.1
    | comment data =>
      exact iff_of_true (List.forall_mem_singleton.2 (addsNothing_of_comment hfirst.1.1)) rfl
    | element name attributes children template =>
      refine iff_of_false (fun hall => ?_) Bool.false_ne_true
      exact not_addsNothing_of_element hfirst.1.1 (hall n List.mem_cons_self)
    | doctype _ => exact iff_of_true (List.forall_mem_nil _) rfl
    | instruction _ _ => exact iff_of_true (List.forall_mem_nil _) rfl

end Dom.Document

namespace Inspection

open Html.Content

variable {page : List Html.Content} {place : List Nat} {n : Nat} {name : String}
  {attributes : List (String × String)} {children template : List Html.Content}

/-- A kind is handed out, where texts may repeat, exactly if it is due. -/
theorem Inspector.mem_kinds_repeating_iff {d : Document} (hd : TreeShaped d)
    {b : Option NodeId} {e : Element} (he : d.element? n = some e) (k : CandidateKind) :
    k ∈ ((repeating d b).candidates n).map Candidate.kind ↔ IsDue d b n e k := by
  have hv : Vicinity.at? d b n = some ⟨d, b, n, e⟩ := by rw [Vicinity.at?, he, Option.map_some]
  have hgenuine : Vicinity.Genuine ⟨d, b, n, e⟩ := he
  rw [candidates_repeating, emitted_of_at? hv, ((perm_rankBy _ _).map _).mem_iff]
  exact Vicinity.mem_kinds_iff hd.linksAgree hgenuine

/-- **The node of an element of the page**: what it is, and when the empty kind is handed out
for it. -/
theorem element_and_empty_of_madeAt
    (hat : at? page place = some (.element name attributes children template))
    (hn : MadeAt root .empty page place n) :
    (toDocument page).element? n = some ⟨name, .ofList attributes⟩ ∧
      (.empty ∈ ((Inspector.ofDocument (toDocument page) ⟨false⟩).candidates n).map
          Candidate.kind ↔
        areEmpty isBlank children) := by
  obtain ⟨-, -, hkind, hchildren, hparts⟩ := hn.numbered hat .empty (by decide)
  have helement : (toDocument page).element? n = some ⟨name, .ofList attributes⟩ := by
    simp [element?, toDocument, hkind, Attributes.ofList_eq]
  refine ⟨helement, ?_⟩
  have hd : TreeShaped (toDocument page) := (Html.adds_toDocument page).treeShaped
  rw [← forall_addsNothing_iff children hparts, ← hchildren]
  refine (Inspector.mem_kinds_repeating_iff hd helement .empty).trans ?_
  simp only [IsDue, AddsNothing, forall_and]
  rfl

/-- **The empty elements of a page.** Of every element of a page, template contents aside, one
node of the document is made, which is this element. Under the default boundary an `:empty`
candidate is handed out for it exactly if none of the element's children is an element and its
text children consist of blank characters. So there is one wherever the element has no content
but document white space; and where all blank characters in its text children are document white
space, there is one nowhere else. -/
theorem empty_of_page
    (hat : at? page place = some (.element name attributes children template)) :
    ∃ n, (∀ m, MadeAt root .empty page place m ↔ m = n) ∧
      (toDocument page).element? n = some ⟨name, .ofList attributes⟩ ∧
      (.empty ∈ ((Inspector.ofDocument (toDocument page) ⟨false⟩).candidates n).map
          Candidate.kind ↔ areEmpty isBlank children) ∧
      (areEmpty isDocumentSpace children →
        .empty ∈ ((Inspector.ofDocument (toDocument page) ⟨false⟩).candidates n).map
          Candidate.kind) ∧
      ((∀ data, .text data ∈ children → ∀ c ∈ data.toList, isBlank c → isDocumentSpace c) →
        (.empty ∈ ((Inspector.ofDocument (toDocument page) ⟨false⟩).candidates n).map
          Candidate.kind ↔ areEmpty isDocumentSpace children)) := by
  obtain ⟨n, hn⟩ := exists_madeAt root .empty hat
  obtain ⟨helement, hempty⟩ := element_and_empty_of_madeAt hat hn
  have hspace : areEmpty isDocumentSpace children → areEmpty isBlank children :=
    areEmpty_mono fun _ _ _ _ => isBlank_of_isDocumentSpace
  refine ⟨n, fun m => ⟨fun hm => hm.unique hn, fun hm => hm ▸ hn⟩, helement, hempty,
    fun h => hempty.2 (hspace h), fun hblank => hempty.trans ⟨fun h => ?_, hspace⟩⟩
  exact areEmpty_mono hblank h

/-- A page with three paragraphs: one holds a comment and a line break, one a no-break space, and
one a text. -/
def paragraphs : List Html.Content :=
  [.element "html" [] [.element "body" []
    [.element "p" [] [.comment "none", .text "\n"] [],
     .element "p" [] [.text "\u00a0"] [],
     .element "p" [] [.text "a"] []] []] []]

/-- The first paragraph has an `:empty` candidate, the third one has none. -/
theorem empty_of_page_paragraphs :
    (at? paragraphs [0, 0, 0] = some (.element "p" [] [.comment "none", .text "\n"] []) ∧
      ∃ n, MadeAt root .empty paragraphs [0, 0, 0] n ∧
        .empty ∈ ((Inspector.ofDocument (toDocument paragraphs) ⟨false⟩).candidates n).map
          Candidate.kind) ∧
    at? paragraphs [0, 0, 2] = some (.element "p" [] [.text "a"] []) ∧
      ∃ n, MadeAt root .empty paragraphs [0, 0, 2] n ∧
        .empty ∉ ((Inspector.ofDocument (toDocument paragraphs) ⟨false⟩).candidates n).map
          Candidate.kind := by
  have hfirst : at? paragraphs [0, 0, 0] =
      some (.element "p" [] [.comment "none", .text "\n"] []) := rfl
  have hthird : at? paragraphs [0, 0, 2] = some (.element "p" [] [.text "a"] []) := rfl
  obtain ⟨n, hn, -, -, hspace, -⟩ := empty_of_page hfirst
  obtain ⟨m, hm, -, hempty, -⟩ := empty_of_page hthird
  exact ⟨⟨hfirst, n, (hn n).2 rfl, hspace (by decide)⟩, hthird, m, (hm m).2 rfl,
    fun h => absurd (hempty.1 h) (by decide)⟩

/-- **An `:empty` candidate for an element that is not empty.** The second paragraph holds a
no-break space, which is no document white space. -/
theorem empty_with_noBreakSpace :
    ¬ ∀ (page : List Html.Content) (place : List Nat) (n : Nat) (name : String)
      (attributes : List (String × String)) (children template : List Html.Content),
      at? page place = some (.element name attributes children template) →
      MadeAt root .empty page place n →
      (.empty ∈ ((Inspector.ofDocument (toDocument page) ⟨false⟩).candidates n).map
          Candidate.kind ↔ areEmpty isDocumentSpace children) := by
  intro hclaim
  have hat : at? paragraphs [0, 0, 1] = some (.element "p" [] [.text "\u00a0"] []) := rfl
  obtain ⟨n, hn⟩ := exists_madeAt root .empty hat
  have hempty := (element_and_empty_of_madeAt hat hn).2.2 (by decide)
  exact absurd ((hclaim _ _ n _ _ _ _ hat hn).1 hempty) (by decide)

end Inspection

end SelectorFinder
