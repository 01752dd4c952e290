import SelectorFinder.Html.Content
import SelectorFinder.Proofs.Dom.Attaching
import SelectorFinder.Proofs.Dom.AttributeOrder
import SelectorFinder.Proofs.Dom.Numbering

/-!
# The Document of a Page

What becomes of the ordered tree of a page: its document has the outline that is left when
document types, processing instructions, the texts that are dropped and the contents of
templates are taken out, and its nodes are numbered in document order.

A part of a page is added by making its nodes one after the other, each appended at once. The
invariant `Adds` says what that leaves alone and what is new: below the parent some parts are
numbered from the old size of the document on, and no other node that was there is touched.

## Main results

* `Content.adds_addTo`: what adding a part of a page does.
* `outline_toDocument`: the outline of the document of a page.
* `toDocument_faithful`: shape, numbering and outline together.
-/

namespace SelectorFinder.Html

open SelectorFinder.Dom SelectorFinder.Dom.Document SelectorFinder.Text

/-! ### What is kept of a page -/

namespace Content

mutual

/-- What stays of a part of a page if document types, processing instructions, the contents
of templates and the texts that are not to be kept are taken out. An attribute name that is
repeated stays where it comes first, with the value that comes last. -/
def parts (keeps : String → Bool) : Content → List Branch
  | text data => if keeps data then [.text data] else []
  | comment data => [.comment data]
  | element name attributes children _ =>
    [.element ⟨name, ⟨Attributes.settled attributes⟩⟩ (partsAll keeps children)]
  | doctype _ => []
  | instruction _ _ => []

/-- What stays of the parts of a page, in order. -/
def partsAll (keeps : String → Bool) : List Content → List Branch
  | [] => []
  | c :: cs => parts keeps c ++ partsAll keeps cs

end

end Content

/-- Texts are kept unless they are blank. -/
def isKept (data : String) : Bool :=
  !isBlankText data

/-! ### Adding parts to a document -/

/-- **What adding parts does**: below `parent`, behind what it lists, the parts stand in the
new document with new numbers, and nothing else has changed. -/
structure Adds (d : Document) (parent : Nat) (parts : List Branch) (d' : Document) : Prop where
  treeShaped : d'.TreeShaped
  size : d'.size = d.size + Branch.countAll parts
  kind?_eq : ∀ n < d.size, d'.kind? n = d.kind? n
  children_eq : ∀ n < d.size, n ≠ parent → d'.children n = d.children n
  children_parent : d'.children parent = d.children parent ++ Branch.starts d.size parts
  numbered : d'.NumberedAll d.size parts

namespace Adds

variable {d d₁ d₂ : Document} {parent : Nat} {bs cs : List Branch}

/-- Nothing is added. -/
theorem refl (h : d.TreeShaped) (parent : Nat) : Adds d parent [] d where
  treeShaped := h
  size := rfl
  kind?_eq _ _ := rfl
  children_eq _ _ _ := rfl
  children_parent := (List.append_nil _).symm
  numbered := trivial

/-- Parts added one behind the other. The nodes of the first ones are not touched again, as
the parent is older than they are. -/
theorem trans (hp : parent < d.size) (h₁ : Adds d parent bs d₁) (h₂ : Adds d₁ parent cs d₂) :
    Adds d parent (bs ++ cs) d₂ := by
  have hsize := h₁.size
  have hle : d.size ≤ d₁.size := by omega
  have hsame : SameBetween d₁ d₂ d.size (d.size + Branch.countAll bs) := by
    intro n hn hlt
    exact ⟨h₂.kind?_eq n (by omega), h₂.children_eq n (by omega) (by omega)⟩
  refine ⟨h₂.treeShaped, ?_, fun n hn => ?_, fun n hn hne => ?_, ?_, ?_⟩
  · rw [h₂.size, hsize, Branch.countAll_append, Nat.add_assoc]
  · rw [h₂.kind?_eq n (by omega), h₁.kind?_eq n hn]
  · rw [h₂.children_eq n (by omega) hne, h₁.children_eq n hn hne]
  · rw [h₂.children_parent, h₁.children_parent, hsize, Branch.starts_append, List.append_assoc]
  · exact numberedAll_append.2 ⟨numberedAll_congr bs hsame h₁.numbered, hsize ▸ h₂.numbered⟩

/-- A part that stood behind the parent stands there still. -/
theorem numbered_of_lt (h : Adds d parent bs d₁) {n : Nat} {b : Branch} (hn : parent < n)
    (hlast : n + b.count ≤ d.size) (hb : d.Numbered n b) : d₁.Numbered n b := by
  refine numbered_congr b (fun i hi hlt => ?_) hb
  exact ⟨h.kind?_eq i (by omega), h.children_eq i (by omega) (by omega)⟩

end Adds

variable {d d' : Document} {parent : Nat} {kind : NodeKind}

/-- Content is attached as any other node is. -/
theorem attach_eq (d : Document) (parent : Nat) (kind : NodeKind) :
    Html.attach d parent kind = (d.attach parent kind, d.size) :=
  rfl

/-- **An element is added** by attaching its node and adding its parts below that. -/
theorem Adds.element (hp : parent < d.size) {e : Element} {bs : List Branch}
    (h : Adds (d.attach parent (.element e)) d.size bs d') :
    Adds d parent [.element e bs] d' := by
  have hsize := h.size
  rw [size_attach] at hsize
  have hlt : d.size < (d.attach parent (.element e)).size := by simp
  refine ⟨h.treeShaped, ?_, fun n hn => ?_, fun n hn hne => ?_, ?_, ⟨⟨?_, ?_, ?_⟩, trivial⟩⟩
  · simp only [Branch.countAll, Branch.count]
    omega
  · rw [h.kind?_eq n (by omega), kind?_attach, if_neg (by omega)]
  · rw [h.children_eq n (by omega) (by omega), children_attach hp, if_neg hne]
  · rw [h.children_eq parent (by omega) (by omega), children_attach hp, if_pos rfl]
    rfl
  · rw [h.kind?_eq _ hlt, kind?_attach, if_pos rfl]
  · rw [h.children_parent, children_attach hp, if_neg (by omega), children_size, size_attach,
      List.nil_append]
  · rw [← size_attach d parent (.element e)]
    exact h.numbered

/-- **A part without parts below it is added** by attaching its node: a text or a comment. -/
theorem Adds.leaf (h : d.TreeShaped) (hp : parent < d.size) (hkind : kind ≠ .document)
    {b : Branch} (hcount : b.count = 1)
    (hb : ∀ d' : Document, d'.Numbered d.size b ↔
      d'.kind? d.size = some kind ∧ d'.children d.size = []) :
    Adds d parent [b] (d.attach parent kind) := by
  refine ⟨h.attach hp hkind, ?_, fun n hn => ?_, fun n hn hne => ?_, ?_,
    ⟨(hb _).2 ⟨?_, ?_⟩, trivial⟩⟩
  · simp only [size_attach, Branch.countAll, hcount]
  · rw [kind?_attach, if_neg (by omega)]
  · rw [children_attach hp, if_neg hne]
  · rw [children_attach hp, if_pos rfl]
    rfl
  · rw [kind?_attach, if_pos rfl]
  · rw [children_attach hp, if_neg (by omega), children_size]

namespace Content

mutual

/-- **Adding a part of a page** adds what is kept of it. -/
theorem adds_addTo {d : Document} {parent : Nat} (h : d.TreeShaped) (hp : parent < d.size) :
    (c : Content) → Adds d parent (parts isKept c) (addTo parent d c)
  | text data => by
    rw [parts, addTo, attach_eq]
    by_cases hb : isBlankText data = true
    · simpa [isKept, hb] using Adds.refl h parent
    · simpa [isKept, hb] using Adds.leaf h hp (b := .text data) (by simp) rfl fun _ => Iff.rfl
  | comment _ => Adds.leaf h hp (by simp) rfl fun _ => Iff.rfl
  | element name attributes children _ => by
    rw [parts, addTo, Attributes.ofList_eq, attach_eq]
    exact Adds.element hp (adds_addAllTo (h.attach hp (by simp)) (by simp) children)
  | doctype _ => Adds.refl h parent
  | instruction _ _ => Adds.refl h parent

/-- **Adding parts of a page** adds what is kept of them, in order. -/
theorem adds_addAllTo {d : Document} {parent : Nat} (h : d.TreeShaped) (hp : parent < d.size) :
    (cs : List Content) → Adds d parent (partsAll isKept cs) (addAllTo parent d cs)
  | [] => Adds.refl h parent
  | c :: cs => by
    have hfirst := adds_addTo h hp c
    have hsize := hfirst.size
    exact hfirst.trans hp (adds_addAllTo hfirst.treeShaped (by omega) cs)

end

end Content

/-! ### The document of a page -/

/-- **Documents that are faithful to a page.** -/
structure FaithfulTo (page : List Content) (d : Document) : Prop where
  treeShaped : d.TreeShaped
  /-- Every node but the document node has one parent and is listed once, by that parent; its
  previous sibling is the node just before it in that list. -/
  place : ∀ n < d.size, n ≠ root → ∃ p before after, d.parent? n = some p ∧
    d.children p = before ++ n :: after ∧ n ∉ before ++ after ∧
    d.previous? n = before.getLast? ∧ ∀ q, n ∈ d.children q → q = p
  /-- The nodes are numbered in document order. -/
  numbered : root :: d.nodesBelow d.size root = List.range d.size
  parent_lt : ∀ p, ∀ c ∈ d.children p, p < c
  siblings_lt : ∀ p, (d.children p).Pairwise (· < ·)
  /-- The outline is the page without document types, processing instructions, blank texts and
  the contents of templates, each element with its name and its attributes. -/
  outline_eq : d.outline = Content.partsAll isKept page

section ToDocument

variable (page : List Content)

/-- Starting from the empty document, the parts of a page get the numbers from 1 on. -/
theorem adds_toDocument :
    Adds Document.empty root (Content.partsAll isKept page) (Content.toDocument page) :=
  Content.adds_addAllTo .empty (by decide) page

/-- The children of the document node are the parts of the page, by their numbers. -/
theorem children_root_toDocument :
    (Content.toDocument page).children root =
      Branch.starts 1 (Content.partsAll isKept page) :=
  (adds_toDocument page).children_parent

/-- **The outline of the document of a page** is what is kept of the page. -/
theorem outline_toDocument :
    (Content.toDocument page).outline = Content.partsAll isKept page := by
  have hsize := (adds_toDocument page).size
  rw [outline, children_root_toDocument]
  exact NumberedAll.filterMap_branch? _ (adds_toDocument page).numbered (by omega)

/-- The nodes of the document of a page in document order are all numbers in order. -/
theorem cons_nodesBelow_toDocument :
    root :: (Content.toDocument page).nodesBelow (Content.toDocument page).size root =
      List.range (Content.toDocument page).size := by
  have hadds := adds_toDocument page
  have hsize : (Content.toDocument page).size =
      Branch.countAll (Content.partsAll isKept page) + 1 := by
    rw [hadds.size, Nat.add_comm]
    rfl
  have hrange := NumberedAll.flatMap_nodesBelow _ hadds.numbered (Nat.le_refl _)
  rw [hsize, nodesBelow, children_root_toDocument, List.range_eq_range', List.range'_succ]
  exact congrArg (root :: ·) hrange

/-- The children of a node start behind it, one after the other. -/
theorem exists_children_toDocument (n : Nat) :
    ∃ bs, (Content.toDocument page).children n = Branch.starts (n + 1) bs := by
  have hadds := adds_toDocument page
  have hsize := hadds.size
  have hone : Document.empty.size = 1 := rfl
  by_cases hroot : n = root
  · subst hroot
    exact ⟨_, children_root_toDocument page⟩
  · by_cases hn : n < (Content.toDocument page).size
    · have hpos : 0 < n := Nat.pos_of_ne_zero hroot
      obtain ⟨b, hb⟩ : ∃ b, (Content.toDocument page).Numbered n b :=
        NumberedAll.exists_numbered _ hadds.numbered (by omega) (by omega)
      exact hb.exists_children_eq_starts
    · refine ⟨[], ?_⟩
      rw [children, node?_eq_none_iff.2 (Nat.le_of_not_lt hn)]
      rfl

/-- Every node but the document node is attached. -/
theorem exists_parent?_toDocument {n : Nat} (hn : n < (Content.toDocument page).size)
    (hroot : n ≠ root) : ∃ p, (Content.toDocument page).parent? n = some p := by
  have hmem : n ∈ root :: (Content.toDocument page).nodesBelow (Content.toDocument page).size
      root := by
    rw [cons_nodesBelow_toDocument]
    exact List.mem_range.2 hn
  rcases List.mem_cons.1 hmem with rfl | hmem
  · exact absurd rfl hroot
  · obtain ⟨p, hp⟩ := exists_mem_children_of_mem_nodesBelow hmem
    exact ⟨p, (adds_toDocument page).treeShaped.linksAgree.parent?_eq_iff.2 hp⟩

/-- **The document of a page is faithful to it.** -/
theorem toDocument_faithful : FaithfulTo page (Content.toDocument page) := by
  have hshape : (Content.toDocument page).TreeShaped := (adds_toDocument page).treeShaped
  have hl := hshape.linksAgree
  refine ⟨hshape, fun n hn hroot => ?place, cons_nodesBelow_toDocument page, fun p c hc => ?later,
    fun p => ?inOrder, outline_toDocument page⟩
  case place =>
    obtain ⟨p, hp⟩ := exists_parent?_toDocument page hn hroot
    obtain ⟨before, after, hs⟩ := hl.exists_split hp
    refine ⟨p, before, after, hp, hs, ?_, hl.previous?_eq hs, fun q hq => ?_⟩
    · exact (List.nodup_middle.1 (hs ▸ hl.nodup p)).notMem
    · exact Option.some.inj ((hl.parent?_eq_iff.2 hq).symm.trans hp)
  case later =>
    obtain ⟨bs, hbs⟩ := exists_children_toDocument page p
    exact Branch.le_of_mem_starts (hbs ▸ hc)
  case inOrder =>
    obtain ⟨bs, hbs⟩ := exists_children_toDocument page p
    rw [hbs]
    exact Branch.pairwise_lt_starts _ _

end ToDocument

end SelectorFinder.Html
