import SelectorFinder.Proofs.Dom.Listing
import SelectorFinder.Proofs.Dom.TextContent
import SelectorFinder.Proofs.Html.Conversion
import SelectorFinder.Proofs.Inspection.PathLevels

/-!
# The Walks End

Five functions follow links for as long as there are any: the search for the element before a
node, the text and the elements below a node, the path of a node, and the full path. None of them
counts its rounds, and in a document in which a node lies below itself a climb does not end
(`climbWalk_endless`). Here the functions are computed with a budget, so they always have a value.

What ends is said of the walks without a budget. In a tree-shaped document each of them visits no
node twice: those with a stack by `TreeShaped.nodup_of_traverses`, the one along the siblings
because it goes through the list of the parent from one end to the other, and those that go up
because no node lies below itself. And each of them ends with the value that is computed.

## Main results

* `LinksAgree.siblingWalk_endsOnce`, `TreeShaped.climbWalk_endsOnce`,
  `fullPathWalk_endsOnce`: the walks along single links.
* `climbWalk_endless`: a climb from a node that lies below itself does not end.
* `walks_end`: all five walks, in every tree-shaped document and so in that of every page.
-/

namespace SelectorFinder

namespace Dom.Document

variable {d : Document} {n m p top : NodeId} {k : Nat}

/-! ### The walk along the siblings -/

/-- A walk along siblings goes on with a node, and ends when there is none. -/
def goBack : Option NodeId → Progress NodeId (Option NodeId)
  | none => .ended none
  | some m => .going m

/-- **The walk to the element before a node**: it goes along the previous siblings until it meets
an element. -/
def siblingWalk (d : Document) (n : NodeId) : Walk NodeId (Option NodeId) where
  start := goBack (d.previous? n)
  round m := (m, if d.isElement m then .ended (some m) else goBack (d.previous? m))

/-- Along a stretch of children that starts with the first one, the walk visits some of them, from
the last one on. -/
theorem LinksAgree.exists_endsFrom_goBack (h : LinksAgree d) {before after : List NodeId}
    (hs : d.children p = before ++ after) :
    ∃ visited, visited.Sublist before.reverse ∧
      (d.siblingWalk n).EndsFrom (goBack before.getLast?) visited
        (before.filter d.isElement).getLast? := by
  -- from the far end: each round takes the last node off the stretch
  induction before using List.reverseRecOn generalizing after with
  | nil => exact ⟨[], List.Sublist.refl _, .ended⟩
  | append_singleton init last ih =>
    have hs' : d.children p = init ++ last :: after := by simpa using hs
    rw [List.getLast?_concat, List.reverse_concat]
    by_cases he : d.isElement last
    · refine ⟨[last], (List.nil_sublist _).cons_cons last, ?_⟩
      rw [List.filter_append, List.filter_cons_of_pos he, List.filter_nil, List.getLast?_concat]
      exact .going (by simp [siblingWalk, he]) .ended
    · obtain ⟨visited, hsublist, hends⟩ := ih hs'
      refine ⟨last :: visited, hsublist.cons_cons last, ?_⟩
      rw [List.filter_append, List.filter_cons_of_neg he, List.filter_nil, List.append_nil]
      exact .going (by simp [siblingWalk, he, h.previous?_eq hs']) hends

/-- **The walk along the siblings ends** with the closest element before the node. -/
theorem LinksAgree.siblingWalk_endsOnce (h : LinksAgree d) (n : NodeId) :
    (d.siblingWalk n).EndsOnce d n (d.previousElement? n) := by
  have hstart : (d.siblingWalk n).start = goBack (d.previous? n) := rfl
  cases hp : d.parent? n with
  | none =>
    refine ⟨[], ?_, List.nodup_nil, fun m hm => absurd hm List.not_mem_nil⟩
    rw [Walk.Ends, hstart, h.previousElement?_eq_none hp, h.previous?_eq_none hp]
    exact .ended
  | some p =>
    obtain ⟨before, after, hs⟩ := h.exists_split hp
    obtain ⟨visited, hsublist, hends⟩ := h.exists_endsFrom_goBack (n := n) hs
    have hlisted : ∀ m ∈ visited, m ∈ d.children p := by
      intro m hm
      rw [hs]
      exact List.mem_append_left _ (List.mem_reverse.1 (hsublist.subset hm))
    have hnodup : before.Nodup := (List.nodup_append.1 (hs ▸ h.nodup p)).1
    refine ⟨visited, ?_, hsublist.nodup (List.nodup_reverse.2 hnodup),
      fun m hm => .inr (h.lt_size (hlisted m hm))⟩
    rw [Walk.Ends, hstart, h.previousElement?_eq hs, h.previous?_eq hs]
    exact hends

/-! ### Walks that go up -/

/-- **A walk that goes from node to parent** visits no node twice. -/
theorem TreeShaped.endsOnce_of_isChain (h : TreeShaped d) {σ ρ : Type} {w : Walk σ ρ}
    {result : ρ} {above : List NodeId} (hends : w.Ends (n :: above) result)
    (hup : (n :: above).IsChain fun c p => d.IsParent p c) : w.EndsOnce d n result := by
  have hpairwise : (n :: above).Pairwise fun c a => d.IsAncestor a c := by
    have htrans : ∀ {a b c : NodeId}, d.IsAncestor b a → d.IsAncestor c b → d.IsAncestor c a :=
      fun hba hcb => hcb.trans hba
    have : Trans (fun c a => d.IsAncestor a c) (fun c a => d.IsAncestor a c)
        (fun c a => d.IsAncestor a c) := ⟨htrans⟩
    exact (hup.imp fun _ _ hp => .single hp).pairwise
  refine ⟨n :: above, hends, hpairwise.imp fun ha => ?_, fun m hm => ?_⟩
  · rintro rfl
    exact h.not_isAncestor_self ha
  · refine (List.mem_cons.1 hm).imp_right fun hm => ?_
    obtain ⟨c, hc, -⟩ := (List.rel_of_pairwise_cons hpairwise hm).exists_child
    exact h.built.linked.lt_of_parent? hc

/-- **The walk to the document element**: it goes from parent element to parent element, notes the
place of each node that it leaves, and puts the places in order in the end. There is no path
without a document element, from where no parent element is, and where the parent does not list
the node. -/
def climbWalk (d : Document) (n : NodeId) : Walk (NodeId × List Nat) (Option (List Nat)) where
  start := if d.documentElement?.isSome then .going (n, []) else .ended none
  round := fun (m, path) => (m,
    if d.documentElement? = some m then .ended (some path.reverse)
    else
      match d.parentElement? m with
      | none => .ended none
      | some p =>
        match (d.elementChildren p).idxOf? m with
        | none => .ended none
        | some i => .going (p, path ++ [i]))

/-- The climb ends where the parent links do, with what the walk with a budget finds. -/
theorem exists_endsFrom_climb (htop : d.documentElement? = some top) (hk : d.HasDepth m k)
    {budget : Nat} (hb : k < budget) (path : List Nat) :
    ∃ above, (d.climbWalk n).EndsFrom (.going (m, path)) (m :: above)
        (d.pathDown top budget m path.reverse) ∧
      (m :: above).IsChain fun c p => d.IsParent p c := by
  induction budget generalizing m k path with
  | zero => exact absurd hb (Nat.not_lt_zero k)
  | succ budget ih =>
    rw [pathDown]
    by_cases hm : m = top
    · subst hm
      rw [if_pos rfl]
      exact ⟨[], .going (by simp [climbWalk, htop]) .ended, .singleton m⟩
    have hne : d.documentElement? ≠ some m := by
      rw [htop]
      exact fun he => hm (Option.some.inj he).symm
    rw [if_neg hm]
    cases hp : d.parentElement? m with
    | none => exact ⟨[], .going (by simp [climbWalk, hne, hp]) .ended, .singleton m⟩
    | some p =>
      cases hi : (d.elementChildren p).idxOf? m with
      | none =>
        have hround : (d.climbWalk n).round (m, path) = (m, .ended none) := by
          simp [climbWalk, hne, hp, hi]
        exact ⟨[], .going hround (by simpa [hi] using .ended), .singleton m⟩
      | some i =>
        have hround : (d.climbWalk n).round (m, path) = (m, .going (p, path ++ [i])) := by
          simp [climbWalk, hne, hp, hi]
        obtain ⟨j, hj, hdepth⟩ := hk.of_parentElement? hp
        obtain ⟨above, hends, hup⟩ := ih hdepth (show j < budget by omega) (path ++ [i])
        rw [List.reverse_concat] at hends
        exact ⟨p :: above, .going hround (by simpa [hi] using hends),
          hup.cons_cons (parentElement?_eq_some_iff.1 hp).1⟩

/-- **The walk to the document element ends** with the path of the node. -/
theorem TreeShaped.climbWalk_endsOnce (h : TreeShaped d) (n : NodeId) :
    (d.climbWalk n).EndsOnce d n (d.path? n) := by
  cases htop : d.documentElement? with
  | none =>
    refine ⟨[], ?_, List.nodup_nil, fun m hm => absurd hm List.not_mem_nil⟩
    simpa [Walk.Ends, climbWalk, path?, htop] using .ended
  | some top =>
    obtain ⟨k, hk, hdepth⟩ := h.exists_hasDepth_lt n
    obtain ⟨above, hends, hup⟩ := exists_endsFrom_climb (n := n) htop hdepth hk []
    have hstart : (d.climbWalk n).start = .going (n, []) := by simp [climbWalk, htop]
    have hpath : d.path? n = d.pathDown top d.size n [] := by simp [path?, htop]
    refine h.endsOnce_of_isChain ?_ hup
    rw [Walk.Ends, hstart, hpath]
    exact hends

/-- **A climb from a node that lies below itself does not end**, unless the document element lies
below itself as well. -/
theorem climbWalk_endless (h : Linked d) (htop : d.documentElement? = some top)
    (hn : d.IsElementAncestor n n) (hapart : ¬ d.IsElementAncestor top top)
    (visited : List NodeId) (result : Option (List Nat)) :
    ¬ (d.climbWalk n).Ends visited result := by
  have hstart : (d.climbWalk n).start = .going (n, []) := by simp [climbWalk, htop]
  rw [Walk.Ends, hstart]
  suffices hgoes : ∀ s : NodeId × List Nat, d.IsElementAncestor s.1 s.1 →
      ∃ s', ((d.climbWalk n).round s).2 = .going s' ∧ d.IsElementAncestor s'.1 s'.1 from
    Walk.not_endsFrom hgoes hn visited result
  rintro ⟨m, path⟩ hm
  -- the parent element of a node that lies below itself lies below itself too
  obtain ⟨p, hmp, hpm⟩ := Relation.TransGen.tail'_iff.1 hm
  have hparent : d.parentElement? m = some p := hpm
  have hlisted : m ∈ d.elementChildren p := by
    obtain ⟨c, hmc, -⟩ := Relation.TransGen.head'_iff.1 hm
    obtain ⟨before, after, hs, -⟩ := h.exists_place (parentElement?_eq_some_iff.1 hparent).1
    exact mem_elementChildren.2 ⟨by simp [hs], (parentElement?_eq_some_iff.1 hmc).2⟩
  obtain ⟨i, hi⟩ := Option.isSome_iff_exists.1 (List.isSome_idxOf?.2 hlisted)
  have hne : d.documentElement? ≠ some m := by
    rw [htop]
    rintro he
    obtain rfl := Option.some.inj he
    exact hapart hm
  refine ⟨(p, path ++ [i]), ?_, .head' hpm hmp⟩
  simp [climbWalk, hne, hparent, hi]

/-- An element that was appended to itself. -/
def selfAppended : Document :=
  (empty
    |>.attach 0 (.element ⟨"html", .empty⟩)
    |>.attach 1 (.element ⟨"p", .empty⟩)).link 2 2

/-- The document with the node appended to itself can be built. -/
theorem built_selfAppended : Built selfAppended := by
  have htree : TreeShaped (empty
      |>.attach 0 (.element ⟨"html", .empty⟩)
      |>.attach 1 (.element ⟨"p", .empty⟩)) := by
    have hsize : empty.size = 1 := rfl
    refine .attach (.attach .empty ?_ ?_) ?_ ?_ <;> simp [hsize]
  exact htree.built.tail (.append (append?_eq_some_iff.2 ⟨⟨by decide, by decide⟩, rfl⟩))

/-- From an element that was appended to itself the climb does not end. -/
theorem climbWalk_endless_selfAppended (visited : List NodeId) (result : Option (List Nat)) :
    ¬ (selfAppended.climbWalk 2).Ends visited result := by
  have hself : selfAppended.IsParentElement 2 2 := rfl
  have htop : selfAppended.documentElement? = some 1 := rfl
  have hapart : ¬ selfAppended.IsElementAncestor 1 1 := by
    intro habove
    obtain ⟨p, -, hp⟩ := Relation.TransGen.tail'_iff.1 habove
    have hnone : selfAppended.parentElement? 1 = none := rfl
    rw [IsParentElement, hnone] at hp
    cases hp
  exact climbWalk_endless built_selfAppended.linked htop (.single hself) hapart visited result

end Dom.Document

namespace Inspection

open Dom Dom.Document Selector Strategy

/-! ### The walk of the full path -/

/-- Levels that were noted from the element upward, as they are written. -/
def writtenUp (noted : List String) : String :=
  " ".intercalate noted.reverse

/-- **The walk of the full path**: it goes from parent to parent and notes the level of each
element. It ends before the boundary, unless it starts there, behind an element with an id or
the boundary, and where there is no parent element. -/
def fullPathWalk (v : Vicinity) : Walk (Vicinity × List String) String where
  start := .going (v, [])
  round := fun (v, noted) => (v.node,
    if !noted.isEmpty && v.isBoundary then .ended (writtenUp noted)
    else
      let noted := noted ++ [(level v).render]
      if v.id?.isSome || v.isBoundary then .ended (writtenUp noted)
      else
        match v.parent? with
        | some parent => .going (parent, noted)
        | none => .ended (writtenUp noted))

/-- A round at an element that is not the boundary, or at the element with which the walk
starts. -/
theorem round_fullPathWalk (start : Vicinity) {v : Vicinity} {noted : List String}
    (hopen : noted = [] ∨ v.isBoundary = false) :
    (fullPathWalk start).round (v, noted) = (v.node,
      if v.id?.isSome || v.isBoundary then .ended (writtenUp (noted ++ [(level v).render]))
      else
        match v.parent? with
        | some parent => .going (parent, noted ++ [(level v).render])
        | none => .ended (writtenUp (noted ++ [(level v).render]))) := by
  have hgo : (!noted.isEmpty && v.isBoundary) = false := by
    rcases hopen with rfl | hnot
    · rfl
    · rw [hnot, Bool.and_false]
  simp only [fullPathWalk, hgo, Bool.false_eq_true, if_false]

/-- The walk ends where the parent links do, with the levels that the walk with a budget finds. -/
theorem exists_endsFrom_fullPath (start : Vicinity) {v : Vicinity} {k : Nat} (hv : v.Genuine)
    (hk : v.document.HasDepth v.node k) {budget : Nat} (hb : k < budget) {noted : List String}
    (hopen : noted = [] ∨ v.isBoundary = false) :
    ∃ above, (fullPathWalk start).EndsFrom (.going (v, noted)) (v.node :: above)
        (writtenUp (noted ++ ((levels budget v).map Compound.render).reverse)) ∧
      (v.node :: above).IsChain fun c p => v.document.IsParent p c := by
  induction budget generalizing v k noted with
  | zero => exact absurd hb (Nat.not_lt_zero k)
  | succ budget ih =>
    have hround := round_fullPathWalk start hopen
    rw [levels]
    by_cases hstop : (v.id?.isSome || v.isBoundary) = true
    · rw [if_pos hstop] at hround ⊢
      exact ⟨[], .going hround .ended, .singleton v.node⟩
    rw [if_neg hstop] at hround ⊢
    cases hp : v.parent? with
    | none =>
      have hanchor : v.anchor? = none := by rw [Vicinity.anchor?, hp, Option.filter_none]
      rw [hp] at hround
      rw [hanchor]
      exact ⟨[], .going hround .ended, .singleton v.node⟩
    | some p =>
      rw [hp] at hround
      obtain ⟨hneighbour, hparent⟩ := Vicinity.parent?_eq_some_iff.1 hp
      by_cases hboundary : p.isBoundary = true
      · -- the walk goes on to the boundary, and ends there
        have hanchor : v.anchor? = none := by simp [Vicinity.anchor?, hp, hboundary]
        have hover : (fullPathWalk start).round (p, noted ++ [(level v).render]) =
            (p.node, .ended (writtenUp (noted ++ [(level v).render]))) := by
          simp [fullPathWalk, hboundary]
        rw [hanchor]
        exact ⟨[p.node], .going hround (.going hover .ended),
          .cons_cons hparent (.singleton p.node)⟩
      · have hanchor : v.anchor? = some p := by simp [Vicinity.anchor?, hp, hboundary]
        rw [hanchor]
        obtain ⟨j, hj, hdepth⟩ := hk.of_isAncestor (.single hparent)
        rw [← hneighbour.document] at hdepth
        have hopen' : noted ++ [(level v).render] = [] ∨ p.isBoundary = false :=
          .inr (Bool.eq_false_iff.2 hboundary)
        obtain ⟨above, hends, hup⟩ :=
          ih hneighbour.genuine hdepth (show j < budget by omega) hopen'
        rw [hneighbour.document] at hup
        refine ⟨p.node :: above, .going hround ?_, hup.cons_cons hparent⟩
        simpa using hends

/-- **The walk of the full path ends** with the text of the path. -/
theorem fullPathWalk_endsOnce {v : Vicinity} (h : TreeShaped v.document) (hv : v.Genuine) :
    (fullPathWalk v).EndsOnce v.document v.node
      (fullPathText v.document v.boundary v.node) := by
  obtain ⟨k, hk, hdepth⟩ := h.exists_hasDepth_lt v.node
  obtain ⟨above, hends, hup⟩ := exists_endsFrom_fullPath v hv hdepth hk (.inl rfl)
  have htext : fullPathText v.document v.boundary v.node =
      writtenUp ((levels v.document.size v).map Compound.render).reverse := by
    rw [fullPathText, pathLevels, hv.at?_eq, writtenUp, List.reverse_reverse]
  rw [htext]
  exact h.endsOnce_of_isChain hends hup

/-! ### All walks -/

/-- **The walks from a node end**, each with the value of its function, and none of them visits a
node twice. -/
structure WalksEnd (d : Document) (n : NodeId) : Prop where
  previousElement : (d.siblingWalk n).EndsOnce d n (d.previousElement? n)
  textContent : (d.textWalk n).EndsOnce d n (d.textContent n)
  descendantElements : (d.listingWalk n).EndsOnce d n (d.descendantElements n)
  path : (d.climbWalk n).EndsOnce d n (d.path? n)
  fullPath : ∀ boundary v, Vicinity.at? d boundary n = some v →
    (fullPathWalk v).EndsOnce d n (fullPathText d boundary n)

/-- **Every walk ends.** In a tree-shaped document, from every node and under every boundary, the
walks to the element before, through the text and the elements below, to the document element and
of the full path all end with what is computed, and none of them visits a node twice. The
documents of pages are tree-shaped. -/
theorem walks_end :
    (∀ d, TreeShaped d → ∀ n, WalksEnd d n) ∧
      ∀ page, TreeShaped (Html.Content.toDocument page) := by
  refine ⟨fun d h n => ?_, fun page => (Html.adds_toDocument page).treeShaped⟩
  constructor
  case previousElement => exact h.linksAgree.siblingWalk_endsOnce n
  case textContent => exact h.textWalk_endsOnce n
  case descendantElements => exact h.listingWalk_endsOnce n
  case path => exact h.climbWalk_endsOnce n
  case fullPath =>
    intro boundary v hv
    obtain ⟨rfl, rfl, rfl, hgenuine⟩ := Vicinity.at?_eq_some_iff.1 hv
    exact fullPathWalk_endsOnce h hgenuine

/-- The walks from the second control of a form: back over a comment and blank text to the first
one, and up to the document element. -/
theorem walks_end_formPage :
    TreeShaped formPage ∧ WalksEnd formPage 7 ∧
      (formPage.siblingWalk 7).EndsOnce formPage 7 (some 4) ∧
      (formPage.climbWalk 7).EndsOnce formPage 7 (some [0, 0, 1]) := by
  have hends := walks_end.1 formPage treeShaped_formPage 7
  have hprevious : formPage.previousElement? 7 = some 4 := rfl
  have hpath : formPage.path? 7 = some [0, 0, 1] := rfl
  exact ⟨treeShaped_formPage, hends, hprevious ▸ hends.previousElement, hpath ▸ hends.path⟩

end Inspection

end SelectorFinder
