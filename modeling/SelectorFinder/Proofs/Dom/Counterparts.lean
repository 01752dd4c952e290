import SelectorFinder.Proofs.Dom.Outline
import SelectorFinder.Proofs.Dom.Paths

/-!
# Documents with the Same Skeleton

The skeleton of a document is its outline without comments and without blank texts. Two
documents with the same skeleton may number their nodes in different ways; what belongs
together are counterparts, the nodes to which the same indices lead from the document nodes.
The relation is carried along every walk through elements, so both documents give the same
answers wherever no node numbers are given out.

## Main results

* `Counterparts.elementChildren`: the element children of counterparts are counterparts.
* `Counterparts.eq_iff`: the relation is one to one.
* `Counterparts.parentElement?`, `Counterparts.previousElement?`: the neighbours.
* `SameSkeleton.descendantElements`, `Counterparts.path?_eq`: listings and paths.
-/

namespace SelectorFinder.Dom

open SelectorFinder.Text

/-! ### Related lists -/

section Related

variable {α β : Type} {R : α → β → Prop} {xs : List α} {ys : List β}

/-- At any index both lists have related things, or neither has any. -/
theorem rel_getElem? (h : List.Forall₂ R xs ys) (i : Nat) : Option.Rel R xs[i]? ys[i]? := by
  induction h generalizing i with
  | nil => exact .none
  | cons hxy _ ih =>
    cases i with
    | zero => exact .some hxy
    | succ i => exact ih i

/-- The first things found in two lists are related, if what is looked for goes with the relation.
-/
theorem rel_find? {p : α → Bool} {q : β → Bool} (h : List.Forall₂ R xs ys)
    (hpq : ∀ a b, R a b → p a = q b) : Option.Rel R (xs.find? p) (ys.find? q) := by
  induction h with
  | nil => exact .none
  | @cons a b _ _ hab _ ih =>
    rw [List.find?_cons, List.find?_cons, hpq a b hab]
    cases q b with
    | true => exact .some hab
    | false => exact ih

/-- Related options are both missing, or both there and related. -/
theorem rel_cases {x : Option α} {y : Option β} (h : Option.Rel R x y) :
    (x = none ∧ y = none) ∨ ∃ a b, x = some a ∧ y = some b ∧ R a b := by
  cases h with
  | none => exact .inl ⟨rfl, rfl⟩
  | some hab => exact .inr ⟨_, _, rfl, rfl, hab⟩

/-- Related options are related by whatever the relation implies. -/
theorem rel_imp {S : α → β → Prop} {x : Option α} {y : Option β} (h : Option.Rel R x y)
    (hRS : ∀ a b, R a b → S a b) : Option.Rel S x y := by
  cases h with
  | none => exact .none
  | some hab => exact .some (hRS _ _ hab)

/-- Related options stay related when related options are made of what they hold. -/
theorem rel_bind {γ δ : Type} {S : γ → δ → Prop} {x : Option α} {y : Option β}
    {f : α → Option γ} {g : β → Option δ} (h : Option.Rel R x y)
    (hfg : ∀ a b, R a b → Option.Rel S (f a) (g b)) : Option.Rel S (x.bind f) (y.bind g) := by
  cases h with
  | none => exact .none
  | some hab => exact hfg _ _ hab

/-- Related options stay related when a test that goes with the relation is made of them. -/
theorem rel_option_filter {p : α → Bool} {q : β → Bool} {x : Option α} {y : Option β}
    (h : Option.Rel R x y) (hpq : ∀ a b, R a b → p a = q b) :
    Option.Rel R (x.filter p) (y.filter q) := by
  cases h with
  | none => exact .none
  | @some a b hab =>
    rw [Option.filter_some, Option.filter_some, hpq a b hab]
    split
    · exact .some hab
    · exact .none

/-- What is looked for is found at the same index. -/
theorem findIdx?_eq {p : α → Bool} {q : β → Bool} (h : List.Forall₂ R xs ys)
    (hpq : ∀ a b, R a b → p a = q b) : xs.findIdx? p = ys.findIdx? q := by
  induction h with
  | nil => rfl
  | @cons a b _ _ hab _ ih => rw [List.findIdx?_cons, List.findIdx?_cons, hpq a b hab, ih]

/-- The last things of two lists are related, or what stands for them. -/
theorem rel_getLastD {a : α} {b : β} (h : List.Forall₂ R xs ys) (hab : R a b) :
    R (xs.getLastD a) (ys.getLastD b) := by
  induction h generalizing a b with
  | nil => exact hab
  | cons hxy _ ih =>
    rw [List.getLastD_cons, List.getLastD_cons]
    exact ih hxy

/-- Members related to members of one list that are related to those of a third. -/
theorem forall₂_trans {γ : Type} {S : β → γ → Prop} {T : α → γ → Prop} {zs : List γ}
    (h : List.Forall₂ R xs ys) (h' : List.Forall₂ S ys zs)
    (hT : ∀ a b c, R a b → S b c → T a c) : List.Forall₂ T xs zs := by
  induction h generalizing zs with
  | nil =>
    cases h'
    exact .nil
  | cons hab _ ih =>
    cases h' with
    | cons hbc h' => exact .cons (hT _ _ _ hab hbc) (ih h')

end Related

/-! ### Skeletons -/

namespace Branch

mutual

/-- What is left of a part when comments and blank texts are deleted. -/
def skeleton : Branch → List Branch
  | element e parts => [.element e (skeletonAll parts)]
  | text data => if isBlankText data then [] else [.text data]
  | comment _ => []

/-- What is left of some parts when comments and blank texts are deleted. -/
def skeletonAll : List Branch → List Branch
  | [] => []
  | b :: bs => skeleton b ++ skeletonAll bs

end

/-- The elements among some parts, each with its own parts. -/
def elementsOf : List Branch → List (Element × List Branch)
  | [] => []
  | .element e parts :: bs => (e, parts) :: elementsOf bs
  | _ :: bs => elementsOf bs

/-- The skeleton keeps the texts that are not blank. -/
theorem text_mem_skeletonAll {data : String} {bs : List Branch} :
    .text data ∈ skeletonAll bs ↔ .text data ∈ bs ∧ isBlankText data = false := by
  induction bs with
  | nil => simp [skeletonAll]
  | cons b bs ih =>
    rw [skeletonAll, List.mem_append, ih, List.mem_cons, or_and_right]
    refine or_congr_left ?_
    cases b with
    | element e parts => simp [skeleton]
    | comment data => simp [skeleton]
    | text other =>
      by_cases h : isBlankText other = true
      · simp only [skeleton, h, if_true, List.not_mem_nil, false_iff]
        rintro ⟨heq, hblank⟩
        obtain rfl : data = other := by simpa using heq
        simp [h] at hblank
      · simp only [skeleton, h, if_false, Bool.false_eq_true, List.mem_singleton]
        refine (and_iff_left_of_imp ?_).symm
        rintro heq
        obtain rfl : data = other := by simpa using heq
        simpa using h

end Branch

namespace Document

open Branch

variable {d d₁ d₂ : Document}

/-- The elements among the nodes at which some parts stand are those of the skeleton. -/
theorem forall₂_elementsOf_skeletonAll {ns : List NodeId} {bs : List Branch}
    (h : List.Forall₂ d.Shows ns bs) :
    List.Forall₂ (fun n e => d.element? n = some e.1 ∧
        ∃ parts, List.Forall₂ d.Shows (d.children n) parts ∧ skeletonAll parts = e.2)
      (ns.filter d.isElement) (elementsOf (skeletonAll bs)) := by
  induction h with
  | nil => exact .nil
  | @cons n b ns bs hn _ ih =>
    rw [skeletonAll]
    cases hn with
    | @element _ e parts hkind hparts =>
      have he : d.element? n = some e := by rw [element?, hkind]
      rw [List.filter_cons_of_pos (isElement_iff.2 ⟨_, he⟩)]
      exact .cons ⟨he, parts, hparts, rfl⟩ ih
    | @text _ data hkind =>
      rw [List.filter_cons_of_neg (by simp [isElement, element?, hkind])]
      by_cases hblank : isBlankText data = true
      · simpa [skeleton, hblank] using ih
      · simpa [skeleton, hblank, elementsOf] using ih
    | comment hkind =>
      rw [List.filter_cons_of_neg (by simp [isElement, element?, hkind])]
      simpa [skeleton] using ih

/-- The texts among the nodes at which some parts stand are those among the parts. -/
theorem exists_text_mem_iff {ns : List NodeId} {bs : List Branch}
    (h : List.Forall₂ d.Shows ns bs) {data : String} :
    (∃ n ∈ ns, d.text? n = some data) ↔ .text data ∈ bs := by
  induction h with
  | nil => simp
  | @cons n b ns bs hn _ ih =>
    simp only [List.mem_cons, exists_eq_or_imp, ih]
    refine or_congr_left ?_
    cases hn with
    | element hkind _ => simp [text?, hkind]
    | text hkind => simp [text?, hkind, eq_comm]
    | comment hkind => simp [text?, hkind]

/-! ### The same below two nodes -/

/-- What lies below the one node has the same skeleton as what lies below the other. -/
def AlikeBelow (d₁ d₂ : Document) (n₁ n₂ : NodeId) : Prop :=
  ∃ bs₁ bs₂, List.Forall₂ d₁.Shows (d₁.children n₁) bs₁ ∧
    List.Forall₂ d₂.Shows (d₂.children n₂) bs₂ ∧ skeletonAll bs₁ = skeletonAll bs₂

/-- The element children agree one by one, as elements and in what lies below them. -/
theorem AlikeBelow.elementChildren {n₁ n₂ : NodeId} (h : AlikeBelow d₁ d₂ n₁ n₂) :
    List.Forall₂ (fun c₁ c₂ => d₁.element? c₁ = d₂.element? c₂ ∧ AlikeBelow d₁ d₂ c₁ c₂)
      (d₁.elementChildren n₁) (d₂.elementChildren n₂) := by
  obtain ⟨bs₁, bs₂, h₁, h₂, hskeleton⟩ := h
  have he₁ := forall₂_elementsOf_skeletonAll h₁
  have he₂ := forall₂_elementsOf_skeletonAll h₂
  rw [← hskeleton] at he₂
  refine forall₂_trans he₁ (List.Forall₂.flip he₂) ?_
  rintro c₁ e c₂ ⟨hc₁, parts₁, hbelow₁, hparts₁⟩ ⟨hc₂, parts₂, hbelow₂, hparts₂⟩
  exact ⟨hc₁.trans hc₂.symm, parts₁, parts₂, hbelow₁, hbelow₂, hparts₁.trans hparts₂.symm⟩

/-- A text that is not blank stands among the children of both nodes or of neither. -/
theorem AlikeBelow.exists_text_iff {n₁ n₂ : NodeId} (h : AlikeBelow d₁ d₂ n₁ n₂) {data : String}
    (hdata : isBlankText data = false) :
    (∃ c ∈ d₁.children n₁, d₁.text? c = some data) ↔
      ∃ c ∈ d₂.children n₂, d₂.text? c = some data := by
  obtain ⟨bs₁, bs₂, h₁, h₂, hskeleton⟩ := h
  have hmem : ∀ bs, .text data ∈ bs ↔ .text data ∈ skeletonAll bs := fun bs => by
    rw [text_mem_skeletonAll, and_iff_left hdata]
  rw [exists_text_mem_iff h₁, exists_text_mem_iff h₂, hmem, hskeleton, ← hmem]

/-- The texts among the children of both nodes are blank, or in neither case. -/
theorem AlikeBelow.forall_text_iff {n₁ n₂ : NodeId} (h : AlikeBelow d₁ d₂ n₁ n₂) :
    (∀ c ∈ d₁.children n₁, ∀ data, d₁.text? c = some data → isBlankText data = true) ↔
      ∀ c ∈ d₂.children n₂, ∀ data, d₂.text? c = some data → isBlankText data = true := by
  have hnone : ∀ (d : Document) (n : NodeId),
      (∀ c ∈ d.children n, ∀ data, d.text? c = some data → isBlankText data = true) ↔
        ∀ data, isBlankText data = false → ¬ ∃ c ∈ d.children n, d.text? c = some data := by
    intro d n
    constructor
    · rintro hblank data hdata ⟨c, hc, htext⟩
      simp [hblank c hc data htext] at hdata
    · intro hnone c hc data htext
      by_contra hdata
      exact hnone data (Bool.eq_false_iff.2 hdata) ⟨c, hc, htext⟩
  rw [hnone, hnone]
  exact forall₂_congr fun data hdata => not_congr (h.exists_text_iff hdata)

/-! ### Counterparts -/

/-- **Two documents with the same skeleton**, both tree-shaped. -/
structure SameSkeleton (d₁ d₂ : Document) : Prop where
  left : d₁.TreeShaped
  right : d₂.TreeShaped
  skeleton_eq : skeletonAll d₁.outline = skeletonAll d₂.outline

/-- **Counterparts**: nodes to which the same indices lead through element children. -/
inductive Counterparts (d₁ d₂ : Document) : NodeId → NodeId → Prop
  | root : Counterparts d₁ d₂ root root
  | child {p₁ p₂ c₁ c₂ : NodeId} {i : Nat} : Counterparts d₁ d₂ p₁ p₂ →
      (d₁.elementChildren p₁)[i]? = some c₁ → (d₂.elementChildren p₂)[i]? = some c₂ →
      Counterparts d₁ d₂ c₁ c₂

namespace Counterparts

variable {n₁ n₂ m₁ m₂ : NodeId}

/-- Counterparts are the same element, or none, and are alike in what lies below them. -/
theorem element?_eq_and_alikeBelow (h : SameSkeleton d₁ d₂) (hc : Counterparts d₁ d₂ n₁ n₂) :
    d₁.element? n₁ = d₂.element? n₂ ∧ AlikeBelow d₁ d₂ n₁ n₂ := by
  induction hc with
  | root =>
    have hroot : ∀ {d : Document}, d.TreeShaped → d.element? Document.root = none := by
      intro d hd
      rw [element?, (hd.built.linked.kind?_eq_document_iff _).2 rfl]
    exact ⟨(hroot h.left).trans (hroot h.right).symm, d₁.outline, d₂.outline,
      h.left.shows_outline, h.right.shows_outline, h.skeleton_eq⟩
  | @child p₁ p₂ c₁ c₂ i _ h₁ h₂ ih =>
    have hrel := rel_getElem? ih.2.elementChildren i
    rw [h₁, h₂] at hrel
    cases hrel with
    | some hchild => exact hchild

/-- Counterparts are equal elements, if they are elements. -/
theorem element?_eq (h : SameSkeleton d₁ d₂) (hc : Counterparts d₁ d₂ n₁ n₂) :
    d₁.element? n₁ = d₂.element? n₂ :=
  (hc.element?_eq_and_alikeBelow h).1

/-- Counterparts are both elements or neither is. -/
theorem isElement_eq (h : SameSkeleton d₁ d₂) (hc : Counterparts d₁ d₂ n₁ n₂) :
    d₁.isElement n₁ = d₂.isElement n₂ := by
  rw [isElement, isElement, hc.element?_eq h]

/-- **The element children of counterparts are counterparts.** -/
theorem elementChildren (h : SameSkeleton d₁ d₂) (hc : Counterparts d₁ d₂ n₁ n₂) :
    List.Forall₂ (Counterparts d₁ d₂) (d₁.elementChildren n₁) (d₂.elementChildren n₂) := by
  have hlength := (hc.element?_eq_and_alikeBelow h).2.elementChildren.length_eq
  refine List.forall₂_iff_get.2 ⟨hlength, fun i h₁ h₂ => hc.child (i := i) ?_ ?_⟩ <;> simp

/-- Counterparts are equally deep. -/
theorem exists_hasDepth (h : SameSkeleton d₁ d₂) (hc : Counterparts d₁ d₂ n₁ n₂) :
    ∃ k, d₁.HasDepth n₁ k ∧ d₂.HasDepth n₂ k := by
  induction hc with
  | root => exact ⟨0, .top h.left.parent?_root, .top h.right.parent?_root⟩
  | child _ h₁ h₂ ih =>
    obtain ⟨k, hk₁, hk₂⟩ := ih
    exact ⟨k + 1, h.left.linksAgree.hasDepth_elementChild hk₁ (List.mem_of_getElem? h₁),
      h.right.linksAgree.hasDepth_elementChild hk₂ (List.mem_of_getElem? h₂)⟩

/-- A node has one counterpart at most. -/
theorem right_unique (h : SameSkeleton d₁ d₂) (hn : Counterparts d₁ d₂ n₁ n₂)
    (hm : Counterparts d₁ d₂ n₁ m₂) : n₂ = m₂ := by
  have hl := h.left.linksAgree
  -- the left node has one parent, which lists it once: so both ways end with the same step
  induction hn generalizing m₂ with
  | root =>
    cases hm with
    | root => rfl
    | child _ h₁ _ =>
      have hparent := hl.parent?_eq_of_mem_elementChildren (List.mem_of_getElem? h₁)
      simp [h.left.parent?_root] at hparent
  | @child p₁ p₂ c₁ c₂ i _ h₁ h₂ ih =>
    have hparent := hl.parent?_eq_of_mem_elementChildren (List.mem_of_getElem? h₁)
    cases hm with
    | root => simp [h.left.parent?_root] at hparent
    | @child q₁ q₂ _ _ j hq h₁' h₂' =>
      have hparent' := hl.parent?_eq_of_mem_elementChildren (List.mem_of_getElem? h₁')
      obtain rfl : p₁ = q₁ := Option.some.inj (hparent.symm.trans hparent')
      obtain rfl : p₂ = q₂ := ih hq
      have hlt := (List.getElem?_eq_some_iff.1 h₁).1
      obtain rfl : i = j :=
        (List.getElem?_inj hlt (hl.nodup_elementChildren p₁)).1 (h₁.trans h₁'.symm)
      exact Option.some.inj (h₂.symm.trans h₂')

end Counterparts

/-- Having the same skeleton goes both ways. -/
theorem SameSkeleton.symm (h : SameSkeleton d₁ d₂) : SameSkeleton d₂ d₁ :=
  ⟨h.right, h.left, h.skeleton_eq.symm⟩

namespace Counterparts

variable {n₁ n₂ m₁ m₂ : NodeId}

/-- Being counterparts goes both ways. -/
theorem symm (hc : Counterparts d₁ d₂ n₁ n₂) : Counterparts d₂ d₁ n₂ n₁ := by
  induction hc with
  | root => exact .root
  | child _ h₁ h₂ ih => exact .child ih h₂ h₁

/-- **The relation is one to one.** -/
theorem eq_iff (h : SameSkeleton d₁ d₂) (hn : Counterparts d₁ d₂ n₁ n₂)
    (hm : Counterparts d₁ d₂ m₁ m₂) : n₁ = m₁ ↔ n₂ = m₂ := by
  constructor
  · rintro rfl
    exact hn.right_unique h hm
  · rintro rfl
    exact hn.symm.right_unique h.symm hm.symm

/-! ### Neighbours -/

/-- **The parents of counterparts** are counterparts, where they are elements. -/
theorem parentElement? (h : SameSkeleton d₁ d₂) (hc : Counterparts d₁ d₂ n₁ n₂) :
    Option.Rel (Counterparts d₁ d₂) (d₁.parentElement? n₁) (d₂.parentElement? n₂) := by
  cases hc with
  | root =>
    rw [Document.parentElement?, Document.parentElement?, h.left.parent?_root,
      h.right.parent?_root]
    exact .none
  | @child p₁ p₂ _ _ i hp h₁ h₂ =>
    rw [h.left.linksAgree.parentElement?_of_mem (List.mem_of_getElem? h₁),
      h.right.linksAgree.parentElement?_of_mem (List.mem_of_getElem? h₂), hp.isElement_eq h]
    split
    · exact .some hp
    · exact .none

/-- **The elements before counterparts** are counterparts. -/
theorem previousElement? (h : SameSkeleton d₁ d₂) (hc : Counterparts d₁ d₂ n₁ n₂) :
    Option.Rel (Counterparts d₁ d₂) (d₁.previousElement? n₁) (d₂.previousElement? n₂) := by
  cases hc with
  | root =>
    rw [h.left.linksAgree.previousElement?_eq_none h.left.parent?_root,
      h.right.linksAgree.previousElement?_eq_none h.right.parent?_root]
    exact .none
  | @child p₁ p₂ _ _ i hp h₁ h₂ =>
    rw [h.left.linksAgree.previousElement?_of_getElem? h₁,
      h.right.linksAgree.previousElement?_of_getElem? h₂]
    split
    · exact .none
    · exact rel_getElem? (hp.elementChildren h) (i - 1)

/-- The document elements are counterparts. -/
theorem documentElement? (h : SameSkeleton d₁ d₂) :
    Option.Rel (Counterparts d₁ d₂) d₁.documentElement? d₂.documentElement? := by
  rw [Document.documentElement?, Document.documentElement?, List.head?_eq_getElem?,
    List.head?_eq_getElem?]
  exact rel_getElem? (Counterparts.root.elementChildren h) 0

/-- The bodies are counterparts. -/
theorem body? (h : SameSkeleton d₁ d₂) :
    Option.Rel (Counterparts d₁ d₂) d₁.body? d₂.body? := by
  have htop := documentElement? h
  rw [Document.body?, Document.body?]
  generalize d₁.documentElement? = top₁ at htop
  generalize d₂.documentElement? = top₂ at htop
  cases htop with
  | none => exact .none
  | some htop =>
    refine rel_find? (htop.elementChildren h) fun c₁ c₂ hc => ?_
    rw [hc.element?_eq h]

/-! ### Walks -/

/-- Counterparts are nodes of their documents. -/
theorem lt_size (h : SameSkeleton d₁ d₂) (hc : Counterparts d₁ d₂ n₁ n₂) : n₁ < d₁.size := by
  cases hc with
  | root => exact h.left.built.linked.size_pos
  | child _ h₁ _ =>
    exact h.left.linksAgree.lt_size (mem_elementChildren.1 (List.mem_of_getElem? h₁)).1

/-- Counterparts have one depth, which is below both numbers of nodes. -/
theorem hasDepth_right (h : SameSkeleton d₁ d₂) (hc : Counterparts d₁ d₂ n₁ n₂) {k : Nat}
    (hk : d₁.HasDepth n₁ k) : d₂.HasDepth n₂ k ∧ k < d₁.size ∧ k < d₂.size := by
  obtain ⟨j, hj₁, hj₂⟩ := hc.exists_hasDepth h
  obtain rfl := hj₁.unique hk
  exact ⟨hj₂, hj₁.lt_size h.left.built.linked (hc.lt_size h),
    hj₂.lt_size h.right.built.linked (hc.symm.lt_size h.symm)⟩

/-- **The elements below counterparts** are counterparts, one by one. Each budget is at least
the number of nodes less the depth, so neither listing is cut short. -/
theorem elementsBelow (h : SameSkeleton d₁ d₂) (hc : Counterparts d₁ d₂ n₁ n₂) {k b₁ b₂ : Nat}
    (hk : d₁.HasDepth n₁ k) (hb₁ : d₁.size ≤ b₁ + k) (hb₂ : d₂.size ≤ b₂ + k) :
    List.Forall₂ (Counterparts d₁ d₂) (d₁.elementsBelow b₁ n₁) (d₂.elementsBelow b₂ n₂) := by
  induction b₁ generalizing n₁ n₂ k b₂ with
  | zero =>
    obtain ⟨-, hlt, -⟩ := hc.hasDepth_right h hk
    omega
  | succ b₁ ih =>
    obtain ⟨-, -, hlt⟩ := hc.hasDepth_right h hk
    obtain ⟨b₂, rfl⟩ : ∃ b, b₂ = b + 1 := ⟨b₂ - 1, by omega⟩
    have hchildren : List.Forall₂ (fun c₁ c₂ => d₁.HasDepth c₁ (k + 1) ∧
        Counterparts d₁ d₂ c₁ c₂) (d₁.elementChildren n₁) (d₂.elementChildren n₂) :=
      (List.forall₂_and_left _ _).2
        ⟨fun c => h.left.linksAgree.hasDepth_elementChild hk, hc.elementChildren h⟩
    rw [Document.elementsBelow, Document.elementsBelow]
    refine List.rel_flatMap hchildren fun c₁ c₂ hcc => .cons hcc.2 ?_
    exact ih hcc.2 hcc.1 (by omega) (by omega)

/-- **The walks up from counterparts** collect the same indices. -/
theorem pathDown_eq (h : SameSkeleton d₁ d₂) {top₁ top₂ : NodeId}
    (htop : Counterparts d₁ d₂ top₁ top₂) (hc : Counterparts d₁ d₂ n₁ n₂) {k b₁ b₂ : Nat}
    (hk : d₁.HasDepth n₁ k) (hb₁ : k < b₁) (hb₂ : k < b₂) (below : List Nat) :
    d₁.pathDown top₁ b₁ n₁ below = d₂.pathDown top₂ b₂ n₂ below := by
  induction hc generalizing k b₁ b₂ below with
  | root =>
    obtain ⟨b₁, rfl⟩ : ∃ b, b₁ = b + 1 := ⟨b₁ - 1, by omega⟩
    obtain ⟨b₂, rfl⟩ : ∃ b, b₂ = b + 1 := ⟨b₂ - 1, by omega⟩
    have hparent : ∀ {d : Document}, d.TreeShaped → d.parentElement? Document.root = none := by
      intro d hd
      rw [Document.parentElement?, hd.parent?_root, Option.filter_none]
    rw [pathDown, pathDown, hparent h.left, hparent h.right]
    exact if_congr (Counterparts.root.eq_iff h htop) rfl rfl
  | @child p₁ p₂ c₁ c₂ i hp h₁ h₂ ih =>
    obtain ⟨b₁, rfl⟩ : ∃ b, b₁ = b + 1 := ⟨b₁ - 1, by omega⟩
    obtain ⟨b₂, rfl⟩ : ∃ b, b₂ = b + 1 := ⟨b₂ - 1, by omega⟩
    have hc : Counterparts d₁ d₂ c₁ c₂ := .child hp h₁ h₂
    have hm₁ := List.mem_of_getElem? h₁
    have hm₂ := List.mem_of_getElem? h₂
    rw [pathDown, pathDown, h.left.linksAgree.parentElement?_of_mem hm₁,
      h.right.linksAgree.parentElement?_of_mem hm₂, hp.isElement_eq h]
    refine if_congr (hc.eq_iff h htop) rfl ?_
    -- either both walks end below a parent that is no element, or both add the index `i`
    split
    next =>
      cases hk with
      | top hnone => simp [h.left.linksAgree.parent?_eq_of_mem_elementChildren hm₁] at hnone
      | down hparent hk =>
        obtain rfl := Option.some.inj
          ((h.left.linksAgree.parent?_eq_of_mem_elementChildren hm₁).symm.trans hparent)
        have hrest := ih hk (Nat.lt_of_succ_lt_succ hb₁) (Nat.lt_of_succ_lt_succ hb₂) (i :: below)
        simpa [h.left.linksAgree.idxOf?_elementChildren h₁,
          h.right.linksAgree.idxOf?_elementChildren h₂] using hrest
    next => rfl

/-- **Counterparts have the same path.** -/
theorem path?_eq (h : SameSkeleton d₁ d₂) (hc : Counterparts d₁ d₂ n₁ n₂) :
    d₁.path? n₁ = d₂.path? n₂ := by
  obtain ⟨k, hk, -⟩ := hc.exists_hasDepth h
  obtain ⟨-, hlt₁, hlt₂⟩ := hc.hasDepth_right h hk
  have htop := documentElement? h
  rw [path?, path?]
  generalize d₁.documentElement? = top₁ at htop
  generalize d₂.documentElement? = top₂ at htop
  cases htop with
  | none => rfl
  | some htop => exact pathDown_eq h htop hc hk hlt₁ hlt₂ []

end Counterparts

/-- **The elements of both documents** are counterparts, one by one in document order. -/
theorem SameSkeleton.descendantElements (h : SameSkeleton d₁ d₂) :
    List.Forall₂ (Counterparts d₁ d₂) (d₁.descendantElements root)
      (d₂.descendantElements root) :=
  Counterparts.root.elementsBelow h (.top h.left.parent?_root) (Nat.le_refl _) (Nat.le_refl _)

end Document

end SelectorFinder.Dom
