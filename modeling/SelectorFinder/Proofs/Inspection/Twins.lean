import SelectorFinder.Inspection.Inspector
import SelectorFinder.Proofs.Dom.Counterparts
import SelectorFinder.Proofs.Html.Conversion
import SelectorFinder.Proofs.Inspection.Views

/-!
# Inspecting Documents with the Same Skeleton

What an inspector says of an element depends on the skeleton of the document alone. Twins are
the vicinities of counterparts, with boundaries that are counterparts: they are the same
element, their neighbours are twins again, and so all strategies propose the same for them.
Which numbers the nodes have, in which order they were made, and which comments and blank
texts stand between them makes no difference.

## Main results

* `Twins.parent?`, `Twins.previous?`, `Twins.children`, `Twins.siblings`: the neighbours.
* `twins_simulation`, `Twins.candidates_eq`: the same candidates.
* `inspectsAlike_of_skeleton`: the same listing, paths and candidates for the whole document.
-/

namespace SelectorFinder.Inspection

open SelectorFinder.Dom SelectorFinder.Dom.Document SelectorFinder.Selector

/-- **Twins**: vicinities of counterparts in documents with the same skeleton. -/
structure Twins (d₁ d₂ : Document) (v₁ v₂ : Vicinity) : Prop where
  documents : SameSkeleton d₁ d₂
  left : v₁.document = d₁
  right : v₂.document = d₂
  genuine_left : v₁.Genuine
  genuine_right : v₂.Genuine
  node : Counterparts d₁ d₂ v₁.node v₂.node
  boundary : Option.Rel (Counterparts d₁ d₂) v₁.boundary v₂.boundary

variable {d₁ d₂ : Document} {v₁ v₂ : Vicinity}

/-- **Counterparts are looked up as twins.** -/
theorem twins_at? (h : SameSkeleton d₁ d₂) {b₁ b₂ : Option NodeId}
    (hb : Option.Rel (Counterparts d₁ d₂) b₁ b₂) {n₁ n₂ : NodeId}
    (hn : Counterparts d₁ d₂ n₁ n₂) :
    Option.Rel (Twins d₁ d₂) (Vicinity.at? d₁ b₁ n₁) (Vicinity.at? d₂ b₂ n₂) := by
  rw [Vicinity.at?, Vicinity.at?]
  cases he : d₁.element? n₁ with
  | none =>
    rw [← hn.element?_eq h, he]
    exact .none
  | some e =>
    have he' : d₂.element? n₂ = some e := (hn.element?_eq h).symm.trans he
    rw [he']
    exact .some ⟨h, rfl, rfl, he, he', hn, hb⟩

namespace Twins

/-! ### The element -/

/-- Twins are the same element. -/
theorem sameElement (h : Twins d₁ d₂ v₁ v₂) : SameElement v₁ v₂ := by
  have h₁ : v₁.document.element? v₁.node = some v₁.element := h.genuine_left
  have h₂ : v₂.document.element? v₂.node = some v₂.element := h.genuine_right
  rw [h.left, h.node.element?_eq h.documents] at h₁
  rw [h.right] at h₂
  exact Option.some.inj (h₁.symm.trans h₂)

/-- Both twins are the boundary, or none of them. -/
theorem isBoundary_eq (h : Twins d₁ d₂ v₁ v₂) : v₁.isBoundary = v₂.isBoundary := by
  rw [Vicinity.isBoundary, Vicinity.isBoundary]
  rcases rel_cases h.boundary with ⟨h₁, h₂⟩ | ⟨b₁, b₂, h₁, h₂, hb⟩
  · rw [h₁, h₂]
    rfl
  · rw [h₁, h₂, Bool.eq_iff_iff, beq_iff_eq, beq_iff_eq, Option.some_inj, Option.some_inj]
    exact hb.eq_iff h.documents h.node

/-- Twins are both the document element or neither is. -/
theorem isDocumentElement_eq (h : Twins d₁ d₂ v₁ v₂) :
    v₁.isDocumentElement = v₂.isDocumentElement := by
  rw [Vicinity.isDocumentElement, Vicinity.isDocumentElement, h.left, h.right]
  rcases rel_cases (Counterparts.documentElement? h.documents) with
    ⟨h₁, h₂⟩ | ⟨t₁, t₂, h₁, h₂, ht⟩
  · rw [h₁, h₂]
    rfl
  · rw [h₁, h₂, Bool.eq_iff_iff, beq_iff_eq, beq_iff_eq, Option.some_inj, Option.some_inj]
    exact ht.eq_iff h.documents h.node

/-! ### The neighbourhood -/

/-- Counterparts of other nodes are looked up as twins too. -/
theorem other? (h : Twins d₁ d₂ v₁ v₂) {n₁ n₂ : NodeId} (hn : Counterparts d₁ d₂ n₁ n₂) :
    Option.Rel (Twins d₁ d₂) (v₁.other? n₁) (v₂.other? n₂) := by
  rw [Vicinity.other?, Vicinity.other?, h.left, h.right]
  exact twins_at? h.documents h.boundary hn

/-- The parents of twins are twins, if there are any. -/
theorem parent? (h : Twins d₁ d₂ v₁ v₂) :
    Option.Rel (Twins d₁ d₂) v₁.parent? v₂.parent? := by
  rw [Vicinity.parent?, Vicinity.parent?, h.left, h.right]
  exact rel_bind (h.node.parentElement? h.documents) fun _ _ => h.other?

/-- The elements before twins are twins, if there are any. -/
theorem previous? (h : Twins d₁ d₂ v₁ v₂) :
    Option.Rel (Twins d₁ d₂) v₁.previous? v₂.previous? := by
  rw [Vicinity.previous?, Vicinity.previous?, h.left, h.right]
  exact rel_bind (h.node.previousElement? h.documents) fun _ _ => h.other?

/-- **The children of twins** are twins. -/
theorem children (h : Twins d₁ d₂ v₁ v₂) :
    List.Forall₂ (Twins d₁ d₂) v₁.children v₂.children := by
  rw [Vicinity.children, Vicinity.children, h.left, h.right]
  exact List.rel_filterMap (fun _ _ hc => h.other? hc) (h.node.elementChildren h.documents)

/-- **The siblings of twins** are twins. -/
theorem siblings (h : Twins d₁ d₂ v₁ v₂) :
    List.Forall₂ (Twins d₁ d₂) v₁.siblings v₂.siblings := by
  rcases rel_cases h.parent? with ⟨h₁, h₂⟩ | ⟨p₁, p₂, h₁, h₂, hp⟩
  · rw [Vicinity.siblings_of_parent?_eq_none h₁, Vicinity.siblings_of_parent?_eq_none h₂]
    exact .nil
  · rw [Vicinity.siblings_of_parent? h₁, Vicinity.siblings_of_parent? h₂]
    exact hp.children

/-- Two pairs of twins are at the same node on both sides or on neither. -/
theorem beq_node_eq (h : Twins d₁ d₂ v₁ v₂) {w₁ w₂ : Vicinity} (hw : Twins d₁ d₂ w₁ w₂) :
    (w₁.node == v₁.node) = (w₂.node == v₂.node) := by
  rw [Bool.eq_iff_iff, beq_iff_eq, beq_iff_eq]
  exact hw.node.eq_iff h.documents h.node

/-- Twins without child elements both have text or both have none: a text that is not blank
is part of the skeleton. -/
theorem hasText_eq (h : Twins d₁ d₂ v₁ v₂) (h₁ : v₁.children = []) (h₂ : v₂.children = []) :
    v₁.hasText = v₂.hasText := by
  have hl₁ : v₁.document.LinksAgree := h.left ▸ h.documents.left.linksAgree
  have hl₂ : v₂.document.LinksAgree := h.right ▸ h.documents.right.linksAgree
  have hfalse : v₁.hasText = false ↔ v₂.hasText = false := by
    rw [Vicinity.hasText_eq_false_iff hl₁ h.genuine_left h₁,
      Vicinity.hasText_eq_false_iff hl₂ h.genuine_right h₂, h.left, h.right]
    exact (h.node.element?_eq_and_alikeBelow h.documents).2.forall_text_iff
  cases ht : v₂.hasText with
  | false => exact hfalse.2 ht
  | true => simpa [ht] using hfalse

end Twins

/-- **Being twins is kept by all that is looked at**: neighbours of twins are twins. -/
theorem twins_simulation : Simulation (Twins d₁ d₂) where
  sameElement h := h.sameElement
  isBoundary_eq h := h.isBoundary_eq
  isDocumentElement_eq h := h.isDocumentElement_eq
  parent? h := h.parent?
  previous? h := rel_imp h.previous? fun _ _ hw => hw.sameElement
  children h := h.children.imp fun _ _ hc => hc.sameElement
  siblings h := h.siblings.imp fun _ _ hw => ⟨hw.sameElement, h.beq_node_eq hw⟩
  hasText_eq h := h.hasText_eq

/-- **Twins have the same candidates.** -/
theorem Twins.candidates_eq (h : Twins d₁ d₂ v₁ v₂) : v₁.candidates = v₂.candidates := by
  obtain ⟨k, hk, -⟩ := h.node.exists_hasDepth h.documents
  obtain ⟨-, hlt₁, hlt₂⟩ := h.node.hasDepth_right h.documents hk
  exact twins_simulation.candidates_eq h (h.left ▸ hk) (h.left ▸ hlt₁) (h.right ▸ hlt₂)

/-! ### Documents as a whole -/

/-- The default boundaries are counterparts. -/
theorem rel_defaultBoundary? (h : SameSkeleton d₁ d₂) :
    Option.Rel (Counterparts d₁ d₂) (Inspector.defaultBoundary? d₁)
      (Inspector.defaultBoundary? d₂) := by
  rw [Inspector.defaultBoundary?, Inspector.defaultBoundary?]
  rcases rel_cases (Counterparts.body? h) with ⟨h₁, h₂⟩ | ⟨b₁, b₂, h₁, h₂, hb⟩
  · rw [h₁, h₂]
    exact Counterparts.documentElement? h
  · rw [h₁, h₂]
    exact .some hb

/-- Counterparts get the same candidates. -/
theorem candidates_eq_of_counterparts (h : SameSkeleton d₁ d₂) {n₁ n₂ : NodeId}
    (hn : Counterparts d₁ d₂ n₁ n₂) (choices : Choices) :
    (Inspector.ofDocument d₁ choices).candidates n₁ =
      (Inspector.ofDocument d₂ choices).candidates n₂ := by
  rw [Inspector.candidates, Inspector.candidates, Inspector.ofDocument, Inspector.ofDocument]
  rcases rel_cases (twins_at? h (rel_defaultBoundary? h) hn) with
    ⟨h₁, h₂⟩ | ⟨v₁, v₂, h₁, h₂, hv⟩
  · simp only [h₁, h₂]
  · simp only [h₁, h₂, hv.candidates_eq]

/-- **Documents that inspect alike**: they list equally many elements, and the elements that
are listed at the same place have the same path and the same candidates. -/
structure InspectsAlike (d₁ d₂ : Document) : Prop where
  length_eq : (d₁.descendantElements root).length = (d₂.descendantElements root).length
  path?_eq {i : Nat} {n₁ n₂ : NodeId} : (d₁.descendantElements root)[i]? = some n₁ →
    (d₂.descendantElements root)[i]? = some n₂ → d₁.path? n₁ = d₂.path? n₂
  candidates_eq {i : Nat} {n₁ n₂ : NodeId} : (d₁.descendantElements root)[i]? = some n₁ →
    (d₂.descendantElements root)[i]? = some n₂ → ∀ choices,
      (Inspector.ofDocument d₁ choices).candidates n₁ =
        (Inspector.ofDocument d₂ choices).candidates n₂

/-- Documents with the same skeleton are inspected alike. -/
theorem inspectsAlike_of_sameSkeleton (h : SameSkeleton d₁ d₂) : InspectsAlike d₁ d₂ := by
  have hlisted : ∀ {i : Nat} {n₁ n₂ : NodeId}, (d₁.descendantElements root)[i]? = some n₁ →
      (d₂.descendantElements root)[i]? = some n₂ → Counterparts d₁ d₂ n₁ n₂ := by
    intro i n₁ n₂ h₁ h₂
    have hrel := rel_getElem? h.descendantElements i
    rw [h₁, h₂] at hrel
    cases hrel with
    | some hn => exact hn
  exact ⟨h.descendantElements.length_eq, fun h₁ h₂ => (hlisted h₁ h₂).path?_eq h,
    fun h₁ h₂ => candidates_eq_of_counterparts h (hlisted h₁ h₂)⟩

/-! ### Pages -/

section Pages

open SelectorFinder.Html SelectorFinder.Text Branch

/-- Skeletons of two lists are put together. -/
theorem skeletonAll_append (bs cs : List Branch) :
    skeletonAll (bs ++ cs) = skeletonAll bs ++ skeletonAll cs := by
  induction bs with
  | nil => rfl
  | cons b bs ih => rw [List.cons_append, skeletonAll, skeletonAll, ih, List.append_assoc]

variable {keeps : String → Bool}

mutual

/-- Whichever blank texts are kept of a part of a page, the skeleton is the same. -/
theorem skeletonAll_parts (hk : ∀ data, isBlankText data = false → keeps data = true) :
    (c : Content) →
      skeletonAll (Content.parts keeps c) = skeletonAll (Content.parts isKept c)
  | .text data => by
    rw [Content.parts, Content.parts, isKept]
    cases hb : isBlankText data with
    | true => cases keeps data <;> simp [skeletonAll, skeleton, hb]
    | false => rw [hk data hb]; rfl
  | .comment _ => rfl
  | .element _ _ children _ => by
    rw [Content.parts, Content.parts]
    simp only [skeletonAll, skeleton, skeletonAll_partsAll hk children]
  | .doctype _ => rfl
  | .instruction _ _ => rfl

/-- Whichever blank texts are kept of a page, the skeleton is the same. -/
theorem skeletonAll_partsAll (hk : ∀ data, isBlankText data = false → keeps data = true) :
    (page : List Content) →
      skeletonAll (Content.partsAll keeps page) = skeletonAll (Content.partsAll isKept page)
  | [] => rfl
  | c :: cs => by
    rw [Content.partsAll, Content.partsAll, skeletonAll_append, skeletonAll_append,
      skeletonAll_parts hk c, skeletonAll_partsAll hk cs]

end

/-- **The skeleton is all that is seen.** Two documents with the same skeleton inspect alike,
however their nodes are numbered. So blank texts may be left out when a page is made into its
document: the document inspects like any other one that is built from the page and keeps some
of them, or all.

Outlines show elements with what is below them, but nothing that may be listed below a text or
a comment, so nothing has to be said of these. -/
theorem inspectsAlike_of_skeleton :
    (∀ d₁ d₂ : Document, d₁.TreeShaped → d₂.TreeShaped →
      skeletonAll d₁.outline = skeletonAll d₂.outline → InspectsAlike d₁ d₂) ∧
    (∀ (page : List Content) (keeps : String → Bool) (d : Document),
      (∀ data, isBlankText data = false → keeps data = true) → d.TreeShaped →
      d.outline = Content.partsAll keeps page → InspectsAlike d (Content.toDocument page)) := by
  refine ⟨fun d₁ d₂ h₁ h₂ heq => inspectsAlike_of_sameSkeleton ⟨h₁, h₂, heq⟩, ?_⟩
  intro page keeps d hk hd houtline
  refine inspectsAlike_of_sameSkeleton ⟨hd, (adds_toDocument page).treeShaped, ?_⟩
  rw [houtline, outline_toDocument, skeletonAll_partsAll hk]

/-- The elements of the sample form, made from the inside out. -/
def bareFormPage : Document :=
  let made := [⟨"INPUT", .empty⟩, ⟨"input", .ofList [("type", "Radio"), ("data-key", "a")]⟩,
    ⟨"form", .ofList [("class", "wide plain")]⟩, ⟨"body", .empty⟩,
    ⟨"html", .empty⟩].foldl (fun d e => (d.create (.element e)).1) Document.empty
  ((((made.link 3 2).link 3 1).link 4 3).link 5 4).link 0 5

/-- The sample form as a page. -/
def formContent : List Content :=
  [.element "html" [] [.element "body" [] [.element "form" [("class", "wide plain")]
    [.element "input" [("type", "Radio"), ("data-key", "a")] [] [], .text "\n", .comment "next",
      .element "INPUT" [] [] []] []] []] []]

/-- The page without its blank texts is tree-shaped. -/
theorem treeShaped_bareFormPage : bareFormPage.TreeShaped := by
  have hcreate : ∀ {d : Document} (e : Element), d.TreeShaped →
      (d.create (.element e)).1.TreeShaped := fun e h => h.create _ (by simp)
  have hmade := hcreate ⟨"html", .empty⟩ (hcreate ⟨"body", .empty⟩ (hcreate
    ⟨"form", .ofList [("class", "wide plain")]⟩ (hcreate
    ⟨"input", .ofList [("type", "Radio"), ("data-key", "a")]⟩ (hcreate ⟨"INPUT", .empty⟩ .empty))))
  refine .link_top (.link_top (.link_top (.link_top (.link_top hmade ?_ ?_ ?_ ?_ ?_ ?_)
    ?_ ?_ ?_ ?_ ?_ ?_) ?_ ?_ ?_ ?_ ?_ ?_) ?_ ?_ ?_ ?_ ?_ ?_) ?_ ?_ ?_ ?_ ?_ ?_ <;> decide

/-- The sample form with its blank text and its comment, without both and numbered in another
order, and made from a page: the second control has the same path and candidates in all. -/
theorem inspectsAlike_formPage :
    skeletonAll formPage.outline = skeletonAll bareFormPage.outline ∧
    formPage.outline = Content.partsAll (fun _ => true) formContent ∧
    (formPage.descendantElements root)[4]? = some 7 ∧
    (bareFormPage.descendantElements root)[4]? = some 1 ∧
    formPage.path? 7 = bareFormPage.path? 1 ∧
    (Inspector.ofDocument formPage ⟨true⟩).candidates 7 =
      (Inspector.ofDocument bareFormPage ⟨true⟩).candidates 1 ∧
    InspectsAlike formPage (Content.toDocument formContent) := by
  have hskeleton : skeletonAll formPage.outline = skeletonAll bareFormPage.outline := rfl
  have houtline : formPage.outline = Content.partsAll (fun _ => true) formContent := rfl
  have h₁ : (formPage.descendantElements root)[4]? = some 7 := by decide +kernel
  have h₂ : (bareFormPage.descendantElements root)[4]? = some 1 := by decide +kernel
  have halike := inspectsAlike_of_skeleton.1 formPage bareFormPage treeShaped_formPage
    treeShaped_bareFormPage hskeleton
  have hloaded := inspectsAlike_of_skeleton.2 formContent (fun _ => true) formPage
    (fun _ _ => rfl) treeShaped_formPage houtline
  exact ⟨hskeleton, houtline, h₁, h₂, halike.path?_eq h₁ h₂, halike.candidates_eq h₁ h₂ ⟨true⟩,
    hloaded⟩

end Pages

end SelectorFinder.Inspection
