import SelectorFinder.Proofs.Dom.Building
import SelectorFinder.Proofs.Inspection.Selecting

/-!
# The Levels of a Full Path

A full path is found by going up: from the element to its parent element and on, until a node
is reached with which the path begins. `PathStarts` says which nodes these are, `Ascends`
which nodes are passed, and `levelText` how each of them is written, all three in terms of the
document alone. The walk with a budget collects the levels of just these nodes, outermost
first.

## Main results

* `TreeShaped.existsUnique_ascends`: the way up, under any boundary.
* `Vicinity.render_level`: how a level is written.
* `pathLevels_of_ascends`: the levels of a path are those of the nodes on the way up.
* `fullPath_levels`: the text of the full path, by its levels and by recursion.
-/

namespace SelectorFinder

open SelectorFinder.Dom SelectorFinder.Selector

namespace Dom.Document

/-! ### The way up -/

/-- The element has an id. -/
def HasId (d : Document) (n : NodeId) : Prop :=
  ∃ e ∈ d.element? n, e.id?.isSome

/-- **Where a path begins**: with an element that has an id, with the boundary itself, and with
an element whose parent is the boundary or no element. -/
def PathStarts (d : Document) (b : Option NodeId) (n : NodeId) : Prop :=
  d.HasId n ∨ b = some n ∨ ∀ p ∈ d.parentElement? n, b = some p

/-- Where a path starts can be found out. -/
instance (d : Document) (b : Option NodeId) (n : NodeId) : Decidable (d.PathStarts b n) :=
  inferInstanceAs (Decidable ((∃ e ∈ d.element? n, _) ∨ _ ∨ ∀ p ∈ d.parentElement? n, _))

/-- **The way up** from a node: the nodes passed, up to the first one with which a path
begins. -/
inductive Ascends (d : Document) (b : Option NodeId) : NodeId → List NodeId → Prop
  | start {n : NodeId} : d.PathStarts b n → Ascends d b n [n]
  | up {n p : NodeId} {above : List NodeId} :
      ¬ d.PathStarts b n → d.parentElement? n = some p → Ascends d b p above →
      Ascends d b n (n :: above)

variable {d : Document} {b : Option NodeId} {n p : NodeId} {k : Nat}

/-- Where a path does not begin there is a parent element, which is not the boundary. -/
theorem exists_parentElement?_of_not_pathStarts (h : ¬ d.PathStarts b n) :
    ∃ p, d.parentElement? n = some p ∧ b ≠ some p := by
  simpa using not_or.1 (not_or.1 h).2 |>.2

/-- There is one way up at most. -/
theorem Ascends.unique {up up' : List NodeId} (h : d.Ascends b n up) (h' : d.Ascends b n up') :
    up = up' := by
  induction h generalizing up' with
  | start hstarts =>
    cases h' with
    | start _ => rfl
    | up hnot _ _ => exact absurd hstarts hnot
  | up hnot hp _ ih =>
    cases h' with
    | start hstarts => exact absurd hstarts hnot
    | up _ hp' habove =>
      obtain rfl := Option.some.inj (hp.symm.trans hp')
      rw [ih habove]

/-- The parent element of a node is one step less deep. -/
theorem HasDepth.of_parentElement? (h : d.HasDepth n k) (hp : d.parentElement? n = some p) :
    ∃ j < k, d.HasDepth p j :=
  h.of_isAncestor (.single (parentElement?_eq_some_iff.1 hp).1)

/-- The way up ends, where the parent links do. -/
theorem HasDepth.exists_ascends (h : d.HasDepth n k) (b : Option NodeId) :
    ∃ up, d.Ascends b n up := by
  induction k using Nat.strong_induction_on generalizing n with
  | h k ih =>
    by_cases hstarts : d.PathStarts b n
    · exact ⟨[n], .start hstarts⟩
    · obtain ⟨p, hp, -⟩ := exists_parentElement?_of_not_pathStarts hstarts
      obtain ⟨j, hj, hdepth⟩ := h.of_parentElement? hp
      obtain ⟨above, habove⟩ := ih j hj hdepth
      exact ⟨n :: above, .up hstarts hp habove⟩

/-- **There is one way up** in a tree-shaped document, under any boundary. -/
theorem TreeShaped.existsUnique_ascends (h : TreeShaped d) (b : Option NodeId) (n : NodeId) :
    ∃! up, d.Ascends b n up := by
  obtain ⟨k, hk⟩ := h.exists_hasDepth n
  obtain ⟨up, hup⟩ := hk.exists_ascends b
  exact ⟨up, hup, fun _ hup' => hup'.unique hup⟩

/-! ### The text of a level -/

/-- The element children of a node that have a tag, up to case. -/
def childrenOfType (d : Document) (tag : String) (p : NodeId) : List NodeId :=
  (d.elementChildren p).filter fun m => (d.element? m).any (·.hasTag tag)

/-- The index of an element among those of its tag below the same parent, where there are
several. -/
def indexText (d : Document) (tag : String) (n : NodeId) : String :=
  match d.parentElement? n with
  | none => ""
  | some p =>
    let same := d.childrenOfType tag p
    if 2 ≤ same.length then
      ":nth-of-type(" ++ toString (same.idxOf n + 1) ++ ")"
    else ""

/-- **How an element is written as a level**: by its id alone, or else by its tag in lower
case, its classes in order and its index. -/
def levelText (d : Document) (n : NodeId) : String :=
  match d.element? n with
  | none => ""
  | some e =>
    match e.id? with
    | some id => "#" ++ id
    | none => e.localName ++ String.join (e.classes.map ("." ++ ·)) ++ d.indexText e.tagName n

end Dom.Document

namespace Selector

/-- Levels are written with a space between them. -/
theorem render_ofLevels (levels : List Compound) :
    (ofLevels levels).render = " ".intercalate (levels.map Compound.render) := by
  cases levels with
  | nil => rfl
  | cons c cs =>
    simp only [ofLevels, render, List.map_map]
    induction cs generalizing c with
    | nil => simp
    | cons c' cs ih =>
      have hrest := ih c'
      rw [List.map_cons (f := Compound.render)] at hrest
      rw [List.map_cons, List.map_cons, List.map_cons, String.intercalate_cons_cons, ← hrest]
      simp [Combinator.render, String.append_assoc]

/-- Parts are written one behind the other. -/
theorem Compound.render_cons (part : Part) (c : Compound) :
    Compound.render (part :: c) = part.render ++ Compound.render c := by
  simp [Compound.render]

/-- Compounds that are put together are written one behind the other. -/
theorem Compound.render_append (c c' : Compound) :
    Compound.render (c ++ c') = Compound.render c ++ Compound.render c' := by
  simp [Compound.render]

end Selector

namespace Inspection

open Strategy Dom.Document

namespace Vicinity

variable {d : Document} {v : Vicinity}

/-- An id is a level by itself. -/
theorem level_of_id {id : String} (h : v.id? = some id) : level v = [.simple (.id id)] := by
  rw [level, h]

/-- Without an id a level has the tag, the classes and the index. -/
theorem level_of_no_id (h : v.id? = none) :
    level v = .simple (.type v.tag) ::
      (v.classes.map (.simple <| .className ·) ++ (typeIndex? v).toList.map .nthOfType) := by
  rw [level, h]
  rfl

/-- The index of a level, which is one more than the number of elements of the tag before. -/
theorem render_typeIndex? (hl : v.document.LinksAgree) (hv : v.Genuine) :
    Compound.render ((typeIndex? v).toList.map .nthOfType) =
      v.document.indexText v.element.tagName v.node := by
  rw [typeIndex?, indexText, ← map_node_parent?]
  cases hp : v.parent? with
  | none =>
    rw [sameTagSiblings_of_parent?_eq_none hp]
    rfl
  | some p =>
    obtain ⟨before, after, hs, hplace⟩ := placeIn?_sameTagSiblings_spec hl hv hp
    have hsame : v.document.childrenOfType v.element.tagName p.node =
        before ++ v.node :: after := hs
    have hlength : v.sameTagSiblings.length = (before ++ v.node :: after).length := by
      rw [← hs, ← map_node_sameTagSiblings hp, List.length_map]
    have hindex : (before ++ v.node :: after).idxOf v.node = before.length := by
      have hnodup := (hl.nodup_elementChildren p.node).filter v.sameTag
      rw [hs] at hnodup
      have hnot : v.node ∉ before := fun hm =>
        (List.nodup_append.1 hnodup).2.2 _ hm _ List.mem_cons_self rfl
      simp [List.idxOf_append_of_notMem hnot]
    rw [hlength, hplace]
    dsimp only [Option.map_some]
    rw [hsame, hindex]
    split
    next hmany =>
      rw [if_pos (Nat.succ_le_of_lt hmany)]
      simp [Compound.render, Part.render]
    next hone =>
      rw [if_neg fun hmany => hone (Nat.lt_of_succ_le hmany)]
      rfl

/-- **How a level is written.** -/
theorem render_level (hl : v.document.LinksAgree) (hv : v.Genuine) :
    (level v).render = v.document.levelText v.node := by
  have helement : v.document.element? v.node = some v.element := hv
  rw [levelText, helement]
  dsimp only
  cases hid : v.element.id? with
  | some id =>
    rw [level_of_id hid]
    simp [Compound.render, Part.render, Simple.render]
  | none =>
    have hclasses : Compound.render (v.classes.map (.simple <| .className ·)) =
        String.join (v.element.classes.map ("." ++ ·)) := by
      simp [Compound.render, Part.render, Simple.render, Function.comp_def, Vicinity.classes]
    rw [level_of_no_id hid, Compound.render_cons, Compound.render_append, hclasses,
      render_typeIndex? hl hv, ← String.append_assoc]
    rfl

/-! ### The levels along the way up -/

/-- Whether a path begins here, as the walk finds out. -/
theorem pathStarts_iff (hv : v.Genuine) :
    v.document.PathStarts v.boundary v.node ↔
      (v.id?.isSome || v.isBoundary) = true ∨ v.anchor? = none := by
  have hid : v.document.HasId v.node ↔ v.id?.isSome = true := by
    have helement : v.document.element? v.node = some v.element := hv
    simp [HasId, helement, Vicinity.id?]
  have hanchor : (∀ m ∈ v.document.parentElement? v.node, v.boundary = some m) ↔
      v.anchor? = none := by
    rw [← map_node_parent?, anchor?]
    cases hp : v.parent? with
    | none => simp
    | some p => simp [isBoundary, (parent?_eq_some_iff.1 hp).1.boundary]
  rw [PathStarts, hid, hanchor, Bool.or_eq_true, isBoundary, beq_iff_eq, or_assoc]

/-- Where a path begins there is one level. -/
theorem levels_of_pathStarts (hv : v.Genuine)
    (h : v.document.PathStarts v.boundary v.node) (budget : Nat) :
    levels (budget + 1) v = [level v] := by
  rw [levels]
  split
  next => rfl
  next hnot => rw [((pathStarts_iff hv).1 h).resolve_left hnot]

/-- Elsewhere the levels are those of the parent, and one more. -/
theorem exists_levels_of_not_pathStarts (hv : v.Genuine)
    (h : ¬ v.document.PathStarts v.boundary v.node) (budget : Nat) :
    ∃ p, v.parent? = some p ∧ levels (budget + 1) v = levels budget p ++ [level v] := by
  rw [pathStarts_iff hv, not_or] at h
  obtain ⟨p, hp⟩ := Option.ne_none_iff_exists'.1 h.2
  refine ⟨p, (anchor?_eq_some_iff.1 hp).1, ?_⟩
  rw [levels, if_neg h.1, hp]

/-- **The walk collects the levels of the nodes on the way up**, if its budget is not used up
before. -/
theorem map_render_levels (hl : d.LinksAgree) {b : Option NodeId} {n : NodeId} {up : List NodeId}
    (h : d.Ascends b n up) {budget : Nat} (hv : at? d b n = some v)
    (hdepth : ∃ k < budget, d.HasDepth n k) :
    (levels budget v).map Compound.render = (up.map d.levelText).reverse := by
  induction h generalizing v budget with
  | @start n hstarts =>
    obtain ⟨rfl, rfl, rfl, hgenuine⟩ := at?_eq_some_iff.1 hv
    obtain ⟨k, hk, -⟩ := hdepth
    obtain ⟨budget, rfl⟩ := Nat.exists_eq_add_one.2 (Nat.zero_lt_of_lt hk)
    simp [levels_of_pathStarts hgenuine hstarts, render_level hl hgenuine]
  | @up n m above hnot hm _ ih =>
    obtain ⟨rfl, rfl, rfl, hgenuine⟩ := at?_eq_some_iff.1 hv
    obtain ⟨k, hk, hdepth⟩ := hdepth
    obtain ⟨budget, rfl⟩ := Nat.exists_eq_add_one.2 (Nat.zero_lt_of_lt hk)
    obtain ⟨p, hp, hlevels⟩ := exists_levels_of_not_pathStarts hgenuine hnot budget
    obtain rfl : p.node = m := by
      rw [← map_node_parent?, hp] at hm
      exact Option.some.inj hm
    obtain ⟨j, hj, hdepth⟩ := hdepth.of_parentElement? hm
    have hneighbour := (parent?_eq_some_iff.1 hp).1
    have habove : (levels budget p).map Compound.render = (above.map _).reverse :=
      ih hneighbour.at?_eq ⟨j, by omega, hdepth⟩
    simp [hlevels, habove, render_level hl hgenuine]

end Vicinity

/-! ### The full path -/

variable {d : Document} {b : Option NodeId} {n p : NodeId} {up : List NodeId}

/-- **The levels of the full path** of a node, outermost first, as they are written; none for a
node that is no element. -/
def pathLevels (d : Document) (b : Option NodeId) (n : NodeId) : List String :=
  match Vicinity.at? d b n with
  | some v => (levels d.size v).map Compound.render
  | none => []

/-- The text of the full path of a node. -/
def fullPathText (d : Document) (b : Option NodeId) (n : NodeId) : String :=
  " ".intercalate (pathLevels d b n)

/-- **The levels of a path are those of the nodes on the way up.** -/
theorem pathLevels_of_ascends (hd : TreeShaped d) (hn : d.isElement n) (h : d.Ascends b n up) :
    pathLevels d b n = (up.map d.levelText).reverse := by
  obtain ⟨v, hv⟩ : ∃ v, Vicinity.at? d b n = some v := Inspector.exists_at?_of_isElement hn
  rw [pathLevels, hv]
  exact Vicinity.map_render_levels hd.linksAgree h hv (hd.exists_hasDepth_lt n)

/-- A candidate that is a full path has the text of the path. -/
theorem Inspector.selector_eq_fullPathText {choices : Choices} {c : Candidate}
    (hc : c ∈ (Inspector.mk d b choices).candidates n) (hk : c.kind = .fullPath) :
    c.selector = fullPathText d b n := by
  obtain ⟨v, hv, hproposed⟩ := exists_of_mem_candidates hc
  obtain ⟨q, hq, rfl⟩ := Vicinity.mem_candidates_iff.1 hproposed
  cases hq with
  | fullPath =>
    have hdocument : v.document = d := (Vicinity.at?_eq_some_iff.1 hv).1
    rw [fullPathText, pathLevels, hv, ← render_ofLevels, ← hdocument]
    rfl
  | _ => cases hk

/-- Where a path begins its text is that of the element. -/
theorem fullPathText_of_pathStarts (hd : TreeShaped d) (hn : d.isElement n)
    (h : d.PathStarts b n) : fullPathText d b n = d.levelText n := by
  rw [fullPathText, pathLevels_of_ascends hd hn (.start h)]
  simp

/-- **Elsewhere the text is that of the parent, and the element's own.** -/
theorem fullPathText_of_parentElement? (hd : TreeShaped d) (hn : d.isElement n)
    (h : ¬ d.PathStarts b n) (hp : d.parentElement? n = some p) :
    fullPathText d b n = fullPathText d b p ++ " " ++ d.levelText n := by
  obtain ⟨above, habove, -⟩ := hd.existsUnique_ascends b p
  have helement : d.isElement p := (parentElement?_eq_some_iff.1 hp).2
  have hne : above ≠ [] := by
    rintro rfl
    cases habove
  rw [fullPathText, fullPathText, pathLevels_of_ascends hd hn (.up h hp habove),
    pathLevels_of_ascends hd helement habove, List.map_cons, List.reverse_cons,
    String.intercalate_append_of_ne_nil (by simpa using hne) (by simp),
    String.intercalate_singleton]

/-- **The full path of an element.** In a tree-shaped document, under any boundary, there is
one way up from an element. Its full path is always proposed, and its text is that of the
levels of the nodes on the way up, outermost first, with a space between them. So the text is
the element's level alone if the element has an id, is the boundary, or has the boundary or no
element for its parent; and otherwise it is the text of the parent element's path, a space and
the element's level. -/
theorem fullPath_levels (hd : TreeShaped d) (b : Option NodeId) (hn : d.isElement n) :
    (∃ c ∈ (Inspector.repeating d b).candidates n, c.kind = .fullPath) ∧
    (∀ choices, ∀ c ∈ (Inspector.mk d b choices).candidates n, c.kind = .fullPath →
      c.selector = fullPathText d b n) ∧
    (∃! up, d.Ascends b n up) ∧
    (∀ up, d.Ascends b n up → pathLevels d b n = (up.map d.levelText).reverse) ∧
    (d.PathStarts b n → fullPathText d b n = d.levelText n) ∧
    ∀ p, ¬ d.PathStarts b n → d.parentElement? n = some p →
      fullPathText d b n = fullPathText d b p ++ " " ++ d.levelText n := by
  obtain ⟨v, hv⟩ : ∃ v, Vicinity.at? d b n = some v := Inspector.exists_at?_of_isElement hn
  exact ⟨⟨_, Inspector.mem_candidates_of_proposes hv .fullPath, rfl⟩,
    fun _ _ => Inspector.selector_eq_fullPathText, hd.existsUnique_ascends b n,
    fun _ => pathLevels_of_ascends hd hn, fullPathText_of_pathStarts hd hn,
    fun _ => fullPathText_of_parentElement? hd hn⟩

/-- The second control of the sample form is on its way up below the form. Under the body as
boundary the path begins with the form, under none it begins with the document element. -/
theorem fullPath_levels_formPage :
    TreeShaped formPage ∧ formPage.isElement 7 ∧
      formPage.Ascends (some 2) 7 [7, 3] ∧
      pathLevels formPage (some 2) 7 = ["form.wide.plain", "input:nth-of-type(2)"] ∧
      ¬ formPage.PathStarts none 3 ∧
      fullPathText formPage none 3 = fullPathText formPage none 2 ++ " " ++ "form.wide.plain" ∧
      formPage.PathStarts none 1 ∧ fullPathText formPage none 1 = "html" := by
  have hup : formPage.Ascends (some 2) 7 [7, 3] :=
    .up (by decide) (by decide : formPage.parentElement? 7 = some 3) (.start (by decide))
  have hlevels := (fullPath_levels treeShaped_formPage (some 2) (by decide)).2.2.2.1 _ hup
  have hform : ¬ formPage.PathStarts none 3 := by decide
  have hrest := (fullPath_levels treeShaped_formPage none (by decide)).2.2.2.2.2 2 hform (by decide)
  have htop : formPage.PathStarts none 1 := by decide
  have hhtml := (fullPath_levels treeShaped_formPage none (by decide)).2.2.2.2.1 htop
  have htexts : formPage.levelText 1 = "html" ∧ formPage.levelText 3 = "form.wide.plain" ∧
      formPage.levelText 7 = "input:nth-of-type(2)" := by decide +kernel
  obtain ⟨hfirst, hsecond, hthird⟩ := htexts
  rw [hsecond] at hrest
  rw [List.map_cons, List.map_singleton, hsecond, hthird] at hlevels
  exact ⟨treeShaped_formPage, by decide, hup, hlevels, hform, hrest, htop, hhtml.trans hfirst⟩

end Inspection

end SelectorFinder
