import SelectorFinder.Proofs.Dom.Traversal
import SelectorFinder.Dom.Walk

/-!
# The Text of a Node

The text of a node is put together from what its children add: a text its data, an element its own
text, anything else nothing. This is an equation between the texts of a node and of the elements
among its children (`IsReading`), and in a tree-shaped document one function solves it. A walk
with a stack, which takes the pieces as it meets them, comes to the same text.

## Main results

* `TreeShaped.isReading_iff`: the text of the walk with a budget is the one that solves the
  equation.
* `TreeShaped.textWalk_endsOnce`: the walk with a stack ends with the same text.
* `TreeShaped.textContent_append`: a text that is appended last is read last.
* `textContent_inOrder`: the text of a node as a whole.
-/

namespace SelectorFinder.Dom.Document

variable {d d' : Document} {c n m p t : NodeId} {k : Nat}

/-! ### The equation of a reading -/

/-- What a node adds to the text of its parent, where the text of an element is read otherwise. -/
def share (d : Document) (read : NodeId → String) (n : NodeId) : String :=
  match d.kind? n with
  | some (.text data) => data
  | some (.element _) => read n
  | _ => ""

/-- **Readings**: of a text its data, of any other node what its children add, in order. -/
def IsReading (d : Document) (read : NodeId → String) : Prop :=
  ∀ n, read n =
    match d.text? n with
    | some data => data
    | none => String.join ((d.children n).map (d.share read))

section Share

variable {read read' : NodeId → String}

/-- A text gives its data. -/
theorem share_of_text? {data : String} (h : d.text? n = some data) : d.share read n = data := by
  rw [text?] at h
  rw [share]
  split at h
  next hkind =>
    rw [hkind]
    exact Option.some.inj h
  next => simp at h

/-- An element gives what is read of it. -/
theorem share_of_isElement (h : d.isElement n) : d.share read n = read n := by
  rw [isElement, element?] at h
  rw [share]
  split at h
  next hkind => rw [hkind]
  next => simp at h

/-- A node that is neither a text nor an element adds nothing. -/
theorem share_eq_empty (ht : d.text? n = none) (he : ¬ d.isElement n) :
    d.share read n = "" := by
  rw [text?] at ht
  rw [isElement, element?] at he
  rw [share]
  split
  next hkind => simp [hkind] at ht
  next hkind => simp [hkind] at he
  next => rfl

/-- What a node gives depends on what is read only if it is an element. -/
theorem share_congr (h : d.isElement n → read n = read' n) :
    d.share read n = d.share read' n := by
  by_cases he : d.isElement n
  · rw [share_of_isElement he, share_of_isElement he, h he]
  · cases ht : d.text? n with
    | none => rw [share_eq_empty ht he, share_eq_empty ht he]
    | some data => rw [share_of_text? ht, share_of_text? ht]

/-- An element has no text of its own. -/
theorem text?_eq_none_of_isElement (h : d.isElement n) : d.text? n = none := by
  rw [isElement, element?] at h
  rw [text?]
  split at h
  next hkind => rw [hkind]
  next => simp at h

end Share

/-- Budgets for as many levels as there may be below the node make no difference. -/
theorem TreeShaped.textOf_congr (h : TreeShaped d) {budget budget' : Nat} (hk : d.HasDepth n k)
    (hn : n < d.size) (hb : d.size ≤ k + budget) (hb' : d.size ≤ k + budget') :
    d.textOf budget n = d.textOf budget' n := by
  refine h.induction_budgets (P := fun b b' n => d.textOf b n = d.textOf b' n)
    (fun budget budget' n ih => ?_) hk hn hb hb'
  have hchildren : (d.children n).map (d.textOf budget) =
      (d.children n).map (d.textOf budget') := List.map_congr_left ih
  rw [textOf, textOf, hchildren]

/-- **The text of a node is a reading.** -/
theorem TreeShaped.isReading_textContent (h : TreeShaped d) : d.IsReading d.textContent := by
  have hl := h.linksAgree
  obtain ⟨size, hsize⟩ := Nat.exists_eq_add_one.2 h.built.linked.size_pos
  have hshare : ∀ n, ∀ c ∈ d.children n, d.textOf d.size c = d.share d.textContent c := by
    intro n c hc
    obtain ⟨k, hk⟩ := h.exists_hasDepth n
    have hkc : d.HasDepth c (k + 1) := .down (hl.parent?_eq_iff.2 hc) hk
    -- one level is used up for the child, and what lies below the child is deeper by one
    have hbelow : (d.children c).map (d.textOf size) = (d.children c).map (d.textOf d.size) := by
      refine List.map_congr_left fun m hm => ?_
      have hkm : d.HasDepth m (k + 1 + 1) := .down (hl.parent?_eq_iff.2 hm) hkc
      exact h.textOf_congr hkm (hl.lt_size hm) (by omega) (by omega)
    rw [hsize, textOf, share, textContent, text?]
    cases d.kind? c with
    | none => rfl
    | some kind =>
      cases kind with
      | element e => exact congrArg String.join hbelow
      | _ => rfl
  intro n
  rw [textContent]
  cases d.text? n with
  | some data => rfl
  | none => exact congrArg String.join (List.map_congr_left (hshare n))

/-- **There is one reading** of a tree-shaped document. -/
theorem TreeShaped.isReading_iff (h : TreeShaped d) {read : NodeId → String} :
    d.IsReading read ↔ read = d.textContent := by
  constructor
  · intro hread
    funext n
    induction n using h.induction_children with
    | step n ih =>
      rw [hread n, h.isReading_textContent n,
        List.map_congr_left fun c hc => share_congr fun _ => ih c hc]
  · rintro rfl
    exact h.isReading_textContent

/-- Of a node that is no text, the text is what the children add. -/
theorem TreeShaped.textContent_of_text?_eq_none (h : TreeShaped d) (hn : d.text? n = none) :
    d.textContent n = String.join ((d.children n).map (d.share d.textContent)) := by
  rw [h.isReading_textContent n, hn]

/-! ### The walk with a stack -/

/-- The nodes that the walk puts onto its stack for a node: none for a text; the children, if it is
the node with which the walk started or an element. -/
def childrenRead (d : Document) (start n : NodeId) : List NodeId :=
  if (d.text? n).isSome then []
  else if n = start ∨ d.isElement n then d.children n
  else []

/-- Adds the data of a node to a text, if the node is a text. -/
def addData (d : Document) (text : String) (n : NodeId) : String :=
  match d.text? n with
  | some data => text ++ data
  | none => text

/-- **The walk that reads the text of a node**: it starts with the node on the stack and adds the
data of the texts that it meets; it looks into elements, and into the node whatever it is. -/
def textWalk (d : Document) (n : NodeId) : Walk (NodeId × List NodeId × String) String :=
  stackWalk (d.childrenRead n) d.addData [n] ""

/-- Children are read in their order, or not at all. -/
theorem childrenRead_sublist (d : Document) (start n : NodeId) :
    (d.childrenRead start n).Sublist (d.children n) := by
  rw [childrenRead]
  split
  next => exact List.nil_sublist _
  next =>
    split
    next => exact List.Sublist.refl _
    next => exact List.nil_sublist _

/-- What is added are the data of the texts among the nodes met. -/
theorem foldl_addData (visited : List NodeId) (text : String) :
    visited.foldl d.addData text = text ++ String.join (visited.filterMap d.text?) := by
  induction visited generalizing text with
  | nil => simp
  | cons n visited ih =>
    rw [List.foldl_cons, ih, addData]
    cases hn : d.text? n with
    | none => simp [hn]
    | some data => simp [hn, String.append_assoc]

/-- **What is met on a traversal** that does not come back to its start: the data of the texts met
are what the nodes add with which it starts. -/
theorem TreeShaped.join_texts_of_traverses (h : TreeShaped d) {start : NodeId}
    {starts visited : List NodeId} (ht : Traverses (d.childrenRead start) starts visited)
    (hstart : start ∉ visited) :
    String.join (visited.filterMap d.text?) =
      String.join (starts.map (d.share d.textContent)) := by
  induction ht with
  | nil => rfl
  | @cons n rest inner outer hinner houter ihinner ihouter =>
    obtain ⟨hne, hrest⟩ := not_or.1 (mt List.mem_cons.2 hstart)
    obtain ⟨hin, hout⟩ := not_or.1 (mt List.mem_append.2 hrest)
    have hunread : d.childrenRead start n = [] → inner = [] := by
      intro hnone
      rw [hnone] at hinner
      cases hinner
      rfl
    have hfirst : String.join ((d.text? n).toList ++ inner.filterMap d.text?) =
        d.share d.textContent n := by
      cases htext : d.text? n with
      | some data =>
        rw [hunread (by simp [childrenRead, htext]), share_of_text? htext]
        simp
      | none =>
        by_cases he : d.isElement n
        · have hopen : d.childrenRead start n = d.children n := by simp [childrenRead, htext, he]
          rw [share_of_isElement he, h.textContent_of_text?_eq_none htext, ← hopen, ← ihinner hin]
          rfl
        · have hclosed : d.childrenRead start n = [] := by
            simp [childrenRead, he, Ne.symm hne]
          rw [hunread hclosed, share_eq_empty htext he]
          rfl
    rw [List.map_cons, String.join_cons, ← hfirst, ← ihouter hout, ← String.join_append]
    congr 1
    cases hn : d.text? n <;> simp [hn]

/-- **The walk with a stack reads the text of the node**, and meets no node twice. -/
theorem TreeShaped.textWalk_endsOnce (h : TreeShaped d) (n : NodeId) :
    (d.textWalk n).EndsOnce d n (d.textContent n) := by
  obtain ⟨visited, hvisited⟩ := h.exists_traverses (d.childrenRead_sublist n) [n]
  have hends := h.endsOnce_stackWalk d.addData "" (d.childrenRead_sublist n) (.inl rfl) hvisited
  rw [foldl_addData, String.empty_append] at hends
  have htext : String.join (visited.filterMap d.text?) = d.textContent n := by
    obtain ⟨inner, rfl, hinner⟩ := hvisited.exists_of_cons
    rw [List.append_nil] at hinner
    cases hn : d.text? n with
    | some data =>
      have hnone : d.childrenRead n n = [] := by simp [childrenRead, hn]
      rw [hnone] at hinner
      cases hinner
      rw [h.isReading_textContent n, hn]
      simp [hn]
    | none =>
      have hopen : d.childrenRead n n = d.children n := by simp [childrenRead, hn]
      have hbelow : n ∉ inner := fun hm => h.not_isAncestor_self
        (h.linksAgree.isAncestor_of_traverses (d.childrenRead_sublist n)
          (d.childrenRead_sublist n n) hinner hm)
      rw [List.filterMap_cons_none hn, h.join_texts_of_traverses hinner hbelow, hopen,
        h.textContent_of_text?_eq_none hn]
  rw [htext] at hends
  exact hends

/-! ### A text that is appended last -/

/-- **The last places below a node**: the node itself, and the last places below its last child, if
that is an element. -/
inductive OnSpine (d : Document) : NodeId → NodeId → Prop
  | here {n : NodeId} : OnSpine d n n
  | down {n c p : NodeId} : (d.children n).getLast? = some c → d.isElement c → OnSpine d c p →
      OnSpine d n p

/-- What lies on the spine of last children lies below. -/
theorem LinksAgree.inSubtree_of_onSpine (hl : LinksAgree d) (h : d.OnSpine n p) :
    d.InSubtree n p := by
  induction h with
  | here => exact .refl
  | down hlast _ _ ih =>
    have hc : d.IsParent _ _ := hl.parent?_eq_iff.2 (List.mem_of_getLast? hlast)
    exact .head hc ih

/-- A link changes no text. -/
theorem text?_link (d : Document) (p t n : NodeId) : (d.link p t).text? n = d.text? n := by
  rw [text?, text?, kind?_link]

/-- A link makes no element of a node. -/
theorem isElement_link (d : Document) (p t n : NodeId) :
    (d.link p t).isElement n = d.isElement n := by
  rw [isElement, isElement, element?, element?, kind?_link]

/-- What a node adds is the same after an append, if its text is. -/
theorem share_link (h : d.isElement n → (d.link p t).textContent n = d.textContent n) :
    (d.link p t).share (d.link p t).textContent n = d.share d.textContent n := by
  have hkind : (d.link p t).share (d.link p t).textContent n =
      d.share (d.link p t).textContent n := by
    rw [share, share, kind?_link]
  rw [hkind, share_congr h]

section Append

variable {data : String} (h : TreeShaped d) (h' : TreeShaped (d.link p t)) (hp : p < d.size)
include h h' hp

/-- **An append changes no text** but those of the nodes that have the parent in their
subtrees. -/
theorem textContent_link_of_not_inSubtree (hn : ¬ d.InSubtree n p) :
    (d.link p t).textContent n = d.textContent n := by
  induction n using h.induction_children with
  | step n ih =>
    have hchildren : (d.link p t).children n = d.children n := by
      rw [children_link hp, if_neg]
      rintro rfl
      exact hn .refl
    have hshares : ∀ c ∈ d.children n,
        (d.link p t).share (d.link p t).textContent c = d.share d.textContent c := by
      intro c hc
      have hparent : d.IsParent n c := h.linksAgree.parent?_eq_iff.2 hc
      exact share_link fun _ => ih c hc fun hcp => hn (.head hparent hcp)
    rw [h'.isReading_textContent n, h.isReading_textContent n, text?_link, hchildren,
      List.map_congr_left hshares]

/-- **A text appended at the last place below a node is read last.** -/
theorem textContent_link (ht : d.text? t = some data) (hs : d.OnSpine n p)
    (hn : d.text? n = none) : (d.link p t).textContent n = d.textContent n ++ data := by
  have hl := h.linksAgree
  induction hs with
  | @here p =>
    have hshares : ∀ c ∈ d.children p,
        (d.link p t).share (d.link p t).textContent c = d.share d.textContent c := by
      intro c hc
      have hparent : d.IsParent p c := hl.parent?_eq_iff.2 hc
      exact share_link fun _ => textContent_link_of_not_inSubtree h h' hp
        (h.not_inSubtree_of_isAncestor (.single hparent))
    have hnew : (d.link p t).share (d.link p t).textContent t = data :=
      share_of_text? ((text?_link d p t t).trans ht)
    rw [h'.textContent_of_text?_eq_none ((text?_link d p t p).trans hn),
      h.textContent_of_text?_eq_none hn, children_link hp, if_pos rfl, List.map_append,
      List.map_congr_left hshares, String.join_append, List.map_singleton, hnew]
    simp
  | @down n c p hlast he hs ih =>
    obtain ⟨init, hchildren⟩ := List.getLast?_eq_some_iff.1 hlast
    have hc : d.IsParent n c := hl.parent?_eq_iff.2 (hchildren ▸ by simp)
    have hcp := hl.inSubtree_of_onSpine hs
    have hsame : (d.link p t).children n = d.children n := by
      rw [children_link hp, if_neg]
      rintro rfl
      exact h.not_inSubtree_of_isAncestor (.single hc) hcp
    -- the children before the last one do not have the parent in their subtrees
    have hshares : ∀ x ∈ init,
        (d.link p t).share (d.link p t).textContent x = d.share d.textContent x := by
      intro x hx
      have hxn : d.IsParent n x := hl.parent?_eq_iff.2 (hchildren ▸ by simp [hx])
      refine share_link fun _ => textContent_link_of_not_inSubtree h h' hp fun hxp => ?_
      obtain rfl := h.eq_of_inSubtree hxn hc hxp hcp
      have hnodup := hl.nodup n
      rw [hchildren] at hnodup
      exact (List.nodup_append.1 hnodup).2.2 x hx x (List.mem_singleton_self x) rfl
    have hlastShare : (d.link p t).share (d.link p t).textContent c =
        d.share d.textContent c ++ data := by
      rw [share_of_isElement ((isElement_link d p t c).trans he), share_of_isElement he]
      exact ih h' hp (text?_eq_none_of_isElement he)
    rw [h'.textContent_of_text?_eq_none ((text?_link d p t n).trans hn),
      h.textContent_of_text?_eq_none hn, hsame, hchildren, List.map_append, List.map_append,
      List.map_congr_left hshares, List.map_singleton, List.map_singleton, hlastShare]
    simp [String.append_assoc]

end Append

/-- Below a node without text the spine has none either. -/
theorem text?_eq_none_of_onSpine (h : d.OnSpine n p) (hn : d.text? n = none) :
    d.text? p = none := by
  induction h with
  | here => exact hn
  | down _ he _ ih => exact ih (text?_eq_none_of_isElement he)

/-- **A text that has no parent**, appended at a last place below a node, is read last. -/
theorem TreeShaped.textContent_append (h : TreeShaped d) {data : String}
    (hn : d.text? n = none) (hs : d.OnSpine n p) (ht : d.text? t = some data)
    (hfree : d.parent? t = none) (hbelow : ¬ d.IsAncestor t p) (happend : d.append? p t = some d') :
    d'.textContent n = d.textContent n ++ data := by
  have hroot : t ≠ root := by
    rintro rfl
    rw [text?, (h.built.linked.kind?_eq_document_iff root).2 rfl] at ht
    cases ht
  have hne : t ≠ p := by
    rintro rfl
    rw [text?_eq_none_of_onSpine hs hn] at ht
    cases ht
  have h' : TreeShaped d' := .append h happend hroot hfree hne hbelow
  obtain ⟨⟨hp, -⟩, rfl⟩ := append?_eq_some_iff.1 happend
  exact textContent_link h h' hp ht hs hn

/-! ### A text that is new -/

/-- Making a node changes no text. -/
theorem TreeShaped.textContent_create (h : TreeShaped d) {kind : NodeKind} (hk : kind ≠ .document)
    (hn : n < d.size) : (d.create kind).1.textContent n = d.textContent n := by
  have h' := h.create kind hk
  have hkind : ∀ m < d.size, (d.create kind).1.kind? m = d.kind? m := by
    intro m hm
    rw [kind?_create, if_neg (Nat.ne_of_lt hm)]
  induction n using h.induction_children with
  | step n ih =>
    have hshares : ∀ c ∈ d.children n,
        (d.create kind).1.share (d.create kind).1.textContent c = d.share d.textContent c := by
      intro c hc
      have hlt := h.linksAgree.lt_size hc
      rw [share, hkind c hlt, ← share]
      exact share_congr fun _ => ih c hc hlt
    have htext : (d.create kind).1.text? n = d.text? n := by
      rw [text?, text?, hkind n hn]
    rw [h'.isReading_textContent n, h.isReading_textContent n, htext, children_create,
      List.map_congr_left hshares]

/-- A new node changes no spine. -/
theorem OnSpine.create {kind : NodeKind} (h : d.OnSpine n p) (hl : LinksAgree d) :
    (d.create kind).1.OnSpine n p := by
  induction h with
  | here => exact .here
  | down hlast he _ ih =>
    have hlt := hl.lt_size (List.mem_of_getLast? hlast)
    refine .down (by rw [children_create, hlast]) ?_ ih
    rwa [isElement, element?, kind?_create, if_neg (Nat.ne_of_lt hlt), ← element?, ← isElement]

/-- **A new text**, appended at a last place below a node, is read last. -/
theorem TreeShaped.textContent_attach (h : TreeShaped d) {data : String} (hp : p < d.size)
    (hn : d.text? n = none) (hs : d.OnSpine n p) :
    (d.attach p (.text data)).textContent n = d.textContent n ++ data := by
  have hl := h.linksAgree
  have hlt : n < d.size := by
    rcases inSubtree_iff.1 (hl.inSubtree_of_onSpine hs) with rfl | hnp
    · exact hp
    · obtain ⟨c, hc, -⟩ := hnp.exists_child
      exact h.built.linked.lt_of_parent? hc
  have hmade := h.create (.text data) (by simp)
  have hmadeText : (d.create (.text data)).1.textContent n = d.textContent n :=
    h.textContent_create (by simp) hlt
  have hnew : (d.create (.text data)).1.text? d.size = some data := by
    rw [text?, kind?_create, if_pos rfl]
  have hold : (d.create (.text data)).1.text? n = none := by
    rw [text?, kind?_create, if_neg (Nat.ne_of_lt hlt), ← text?, hn]
  have hp' : p < (d.create (.text data)).1.size := by
    rw [size_create]
    exact Nat.lt_succ_of_lt hp
  rw [← hmadeText]
  exact textContent_link hmade (h.attach hp (by simp)) hp' hnew (hs.create hl) hold

/-- **The text of a node.** In a tree-shaped document one function reads of every text its data and
of every other node what the children add, a text its data, an element its own text and anything
else nothing; it is the one that is computed, and a walk with a stack ends with the same text.
Where there is no node there is no text. The text of an element is put together from what its
children add; and a text appended at a last place below a node that is no text itself, be it new
or made before, is added to the text of the node. -/
theorem textContent_inOrder (h : TreeShaped d) :
    (∀ read, d.IsReading read ↔ read = d.textContent) ∧
    (∀ n, ∃ visited, (d.textWalk n).Ends visited (d.textContent n)) ∧
    (∀ n, d.size ≤ n → d.textContent n = "") ∧
    (∀ n, d.isElement n →
      d.textContent n = String.join ((d.children n).map (d.share d.textContent))) ∧
    (∀ n p data, p < d.size → d.text? n = none → d.OnSpine n p →
      (d.attach p (.text data)).textContent n = d.textContent n ++ data) ∧
    ∀ n p t data d', d.text? n = none → d.OnSpine n p → d.text? t = some data →
      d.parent? t = none → ¬ d.IsAncestor t p → d.append? p t = some d' →
      d'.textContent n = d.textContent n ++ data := by
  refine ⟨fun _ => h.isReading_iff, fun n => ?walk, fun n hn => ?unknown,
    fun n hn => h.textContent_of_text?_eq_none (text?_eq_none_of_isElement hn),
    fun _ _ _ => h.textContent_attach, fun _ _ _ _ _ => h.textContent_append⟩
  case walk =>
    obtain ⟨visited, hends, -⟩ := h.textWalk_endsOnce n
    exact ⟨visited, hends⟩
  case unknown =>
    have hnode := node?_eq_none_iff.2 hn
    rw [h.isReading_textContent n, text?, kind?, hnode, children, hnode]
    rfl

/-- A paragraph with a text, an element with a comment and a text in it, and a last element. The
comment has a text below it that belongs to no element, and a last text has no parent. -/
def mixedParagraph : Document :=
  (empty
    |>.attach 0 (.element ⟨"p", .empty⟩)
    |>.attach 1 (.text "a")
    |>.attach 1 (.element ⟨"b", .empty⟩)
    |>.attach 3 (.comment "c")
    |>.attach 4 (.text "d")
    |>.attach 3 (.text "e")
    |>.attach 1 (.element ⟨"i", .empty⟩)
    |>.create (.text "f")).1

/-- The paragraph is tree-shaped. -/
theorem treeShaped_mixedParagraph : TreeShaped mixedParagraph := by
  have hsize : empty.size = 1 := rfl
  rw [mixedParagraph]
  refine .create _ (.attach (.attach (.attach (.attach (.attach (.attach (.attach .empty
    ?_ ?_) ?_ ?_) ?_ ?_) ?_ ?_) ?_ ?_) ?_ ?_) ?_ ?_) ?_ <;> simp [hsize]

/-- The comment and what is below it add nothing to the text of the paragraph, though the comment
has a text of its own. A new text in the last element is read last, and so is the text made
before. -/
theorem textContent_inOrder_mixedParagraph :
    TreeShaped mixedParagraph ∧ mixedParagraph.textContent 1 = "ae" ∧
      mixedParagraph.textContent 4 = "d" ∧ mixedParagraph.textContent 100 = "" ∧
      mixedParagraph.OnSpine 1 7 ∧
      (mixedParagraph.attach 7 (.text "g")).textContent 1 = "aeg" ∧
      ∃ d, mixedParagraph.append? 7 8 = some d ∧ d.textContent 1 = "aef" := by
  obtain ⟨-, -, hunknown, -, hnew, hmade⟩ := textContent_inOrder treeShaped_mixedParagraph
  have htext : mixedParagraph.textContent 1 = "ae" := by decide +kernel
  have hspine : mixedParagraph.OnSpine 1 7 :=
    .down (by decide +kernel) (by decide +kernel) .here
  have hbelow : ¬ mixedParagraph.IsAncestor 8 7 := by
    intro ha
    obtain ⟨c, hc, -⟩ := ha.exists_child
    have hmem := treeShaped_mixedParagraph.linksAgree.parent?_eq_iff.1 hc
    rw [show mixedParagraph.children 8 = [] by decide +kernel] at hmem
    exact List.not_mem_nil hmem
  have happend : mixedParagraph.append? 7 8 = some (mixedParagraph.link 7 8) :=
    append?_eq_some_iff.2 ⟨by decide +kernel, rfl⟩
  refine ⟨treeShaped_mixedParagraph, htext, by decide +kernel, hunknown 100 (by decide +kernel),
    hspine, ?_, _, happend, ?_⟩
  · rw [hnew 1 7 "g" (by decide +kernel) (by decide +kernel) hspine, htext]
    decide
  · rw [hmade 1 7 8 "f" _ (by decide +kernel) hspine (by decide +kernel) (by decide +kernel) hbelow
      happend, htext]
    decide

end SelectorFinder.Dom.Document
