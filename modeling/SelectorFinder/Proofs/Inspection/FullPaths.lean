import SelectorFinder.Proofs.Inspection.PathLevels

/-!
# Full Paths Tell Elements Apart

The levels of a full path are decoded from the innermost outward. A level that is an id names
its element, as no two elements share an id. Any other level names an element among the
children of one parent: its tag says which of them can be meant, and where several have the
tag, the index says which one is. So equal levels below the same parent are of one element
(`node_eq_of_level_eq`), and by induction on the way up, so are equal paths below the same
boundary (`node_eq_of_levels_eq`). Where all names are plain, the text of a path can be read
back, and different paths have different texts.

## Main results

* `node_eq_of_level_eq`: siblings without id have different levels.
* `node_eq_of_levels_eq`: elements below a boundary have different paths.
* `fullPaths_differ`: the texts of their full paths are different.
-/

namespace SelectorFinder

open SelectorFinder.Dom SelectorFinder.Selector SelectorFinder.Text

/-! ### Plain labels -/

/-- **Plain labels**: the tag, the id and the class names, as they are read off the element,
are plain names. -/
structure Dom.Element.HasPlainLabels (e : Element) : Prop where
  tagName : isPlainName e.tagName
  id : ∀ id ∈ e.id?, isPlainName id
  classes : ∀ name ∈ e.classes, isPlainName name

/-- All elements of the document have plain labels. -/
def Dom.Document.HasPlainLabels (d : Document) : Prop :=
  ∀ n e, d.element? n = some e → e.HasPlainLabels

/-- No two elements share an id. -/
def Dom.Document.HasDistinctIds (d : Document) : Prop :=
  ∀ n n' e e' id, d.element? n = some e → d.element? n' = some e' →
    e.id? = some id → e'.id? = some id → n = n'

/-- A plain element has plain labels. -/
theorem Dom.Element.IsPlain.hasPlainLabels {e : Element} (h : e.IsPlain isBlank) :
    e.HasPlainLabels where
  tagName := h.tagName
  id _ hid := (holds_of_id? h.hasPlainTokens hid).1
  classes _ hm := (holds_of_mem_classes h.hasPlainTokens (fun _ hc => hc) hm).1

namespace Selector

/-- Levels can be told from the selector that they make. -/
theorem ofLevels_inj {levels levels' : List Compound} (hne : levels ≠ []) (hne' : levels' ≠ [])
    (h : ofLevels levels = ofLevels levels') : levels = levels' := by
  obtain ⟨c, cs, rfl⟩ := List.exists_cons_of_ne_nil hne
  obtain ⟨c', cs', rfl⟩ := List.exists_cons_of_ne_nil hne'
  obtain ⟨rfl, hrest⟩ := Selector.mk.inj h
  have hsnd := congrArg (List.map Prod.snd) hrest
  simp only [List.map_map, Function.comp_def, List.map_id'] at hsnd
  rw [hsnd]

end Selector

namespace Inspection

open Strategy

namespace Vicinity

variable {d : Document} {b : NodeId} {v w p : Vicinity}

/-! ### Levels -/

/-- The first index that a compound asks for. -/
def index? (c : Compound) : Option Nat :=
  c.findSome? fun
    | .nthOfType k => some k
    | _ => none

/-- **The tag and the index** are told by a level that is not an id. -/
theorem tag_and_typeIndex?_eq (hv : v.id? = none) (hw : w.id? = none) (h : level v = level w) :
    v.tag = w.tag ∧ typeIndex? v = typeIndex? w := by
  have hindex : ∀ {u : Vicinity}, u.id? = none → index? (level u) = typeIndex? u := by
    intro u hu
    rw [level_of_no_id hu, index?, List.findSome?_cons, List.findSome?_append, List.findSome?_map,
      List.findSome?_map]
    have hnone : u.classes.findSome? (fun _ => (none : Option Nat)) = none :=
      List.findSome?_eq_none_iff.2 fun _ _ => rfl
    cases typeIndex? u <;> simp [Function.comp_def, hnone]
  refine ⟨?_, ?_⟩
  · rw [level_of_no_id hv, level_of_no_id hw] at h
    simpa using (List.cons.inj h).1
  · rw [← hindex hv, ← hindex hw, h]

/-- Whether a sibling is of the same tag is decided by the tag. -/
theorem sameTag_congr (hd : v.document = w.document) (ht : v.tag = w.tag) :
    v.sameTag = w.sameTag := by
  have ht' : lower v.element.tagName = lower w.element.tagName := ht
  funext n
  simp only [sameTag, Element.hasTag, sameName, hd, ht']

/-- **Siblings have different levels**, unless one of them has an id. -/
theorem node_eq_of_level_eq (hl : d.LinksAgree) (hvd : v.document = d) (hwd : w.document = d)
    (hv : v.Genuine) (hw : w.Genuine) {q : Vicinity} (hp : v.parent? = some p)
    (hq : w.parent? = some q) (hpq : p.node = q.node) (hvid : v.id? = none) (hwid : w.id? = none)
    (h : level v = level w) : v.node = w.node := by
  subst hvd
  obtain ⟨htag, hindex⟩ := tag_and_typeIndex?_eq hvid hwid h
  obtain ⟨before, after, hs, hplace⟩ := placeIn?_sameTagSiblings_spec hl hv hp
  obtain ⟨before', after', hs', hplace'⟩ := placeIn?_sameTagSiblings_spec (hwd ▸ hl) hw hq
  rw [hwd, ← sameTag_congr hwd.symm htag, ← hpq, hs] at hs'
  have hlen : v.sameTagSiblings.length = (before ++ v.node :: after).length := by
    rw [← hs, ← map_node_sameTagSiblings hp, List.length_map]
  have hlen' : w.sameTagSiblings.length = (before ++ v.node :: after).length := by
    rw [hs', ← List.length_map (f := Vicinity.node), map_node_sameTagSiblings hq, hwd,
      ← sameTag_congr hwd.symm htag, ← hpq, hs, hs']
  have hbefore : before.length = before'.length := by
    rw [typeIndex?, typeIndex?, hlen, hlen', hplace, hplace'] at hindex
    split at hindex
    next => simpa using hindex
    next hone =>
      -- an only element with the tag has none before it
      have hone' := hone
      rw [hs'] at hone'
      simp only [List.length_append, List.length_cons] at hone hone'
      omega
  obtain ⟨-, hrest⟩ := List.append_inj hs' hbefore
  exact (List.cons.inj hrest).1

/-! ### Paths -/

/-- A path that is written at all has a level. -/
theorem levels_ne_nil {k : Nat} (hk : 0 < k) (v : Vicinity) : levels k v ≠ [] := by
  obtain ⟨k, rfl⟩ := Nat.exists_eq_add_one.2 hk
  rcases levels_cases k v with hlevels | ⟨p, -, hlevels⟩ <;> simp [hlevels]

/-- **A vicinity below the boundary**, at a depth for which the budget is enough. -/
structure LiesBelow (d : Document) (b : NodeId) (budget : Nat) (v : Vicinity) : Prop where
  document : v.document = d
  boundary : v.boundary = some b
  genuine : v.Genuine
  below : d.IsElementAncestor b v.node
  depth : ∃ k < budget, d.HasDepth v.node k

/-- The path of an element below the boundary has a level. -/
theorem LiesBelow.levels_ne_nil {k : Nat} (h : LiesBelow d b k v) : levels k v ≠ [] := by
  obtain ⟨i, hi, -⟩ := h.depth
  exact Vicinity.levels_ne_nil (Nat.zero_lt_of_lt hi) v

/-- The levels of an element with an id are the id alone. -/
theorem levels_of_id {id : String} (h : v.id? = some id) (k : Nat) :
    levels (k + 1) v = [[.simple (.id id)]] := by
  rw [levels, h, level_of_id h]
  rfl

/-- **The levels of an element without id** are those above it, and its own. There are none
above it if its parent is the boundary. -/
theorem LiesBelow.exists_levels {k : Nat} (h : LiesBelow d b (k + 1) v) (hid : v.id? = none) :
    ∃ p above, v.parent? = some p ∧ levels (k + 1) v = above ++ [level v] ∧
      (p.node = b ∧ above = [] ∨ LiesBelow d b k p ∧ above = levels k p) := by
  obtain ⟨rfl, hb, hv, hbelow, i, hi, hdepth⟩ := h
  obtain ⟨m, hbm, hm⟩ := Relation.TransGen.tail'_iff.1 hbelow
  obtain ⟨p, hp, rfl⟩ : ∃ p, v.parent? = some p ∧ p.node = m := by
    rwa [← Option.map_eq_some_iff, map_node_parent?]
  have hneighbour := (parent?_eq_some_iff.1 hp).1
  obtain ⟨j, hj, hpdepth⟩ := hdepth.of_parentElement? hm
  rcases Relation.reflTransGen_iff_eq_or_transGen.1 hbm with hpb | hbm
  · have hstarts : v.document.PathStarts v.boundary v.node := by
      refine .inr (.inr fun q hq => ?_)
      rw [hb, ← hpb, ← hm, ← Option.mem_def.1 hq]
    exact ⟨p, [], hp, levels_of_pathStarts hv hstarts k, .inl ⟨hpb, rfl⟩⟩
  · have hnot : ¬ v.document.PathStarts v.boundary v.node := by
      rintro (⟨e, he, hsome⟩ | hself | hparent)
      · obtain rfl := Option.some.inj (hv.symm.trans he)
        simp [show v.element.id? = none from hid] at hsome
      · obtain rfl := Option.some.inj (hb.symm.trans hself)
        exact hdepth.not_isAncestor hbelow.isAncestor
      · obtain rfl := Option.some.inj (hb.symm.trans (hparent p.node hm))
        exact hpdepth.not_isAncestor (Document.IsElementAncestor.isAncestor hbm)
    obtain ⟨q, hq, hlevels⟩ := exists_levels_of_not_pathStarts hv hnot k
    obtain rfl := Option.some.inj (hp.symm.trans hq)
    exact ⟨p, levels k p, hp, hlevels, .inr ⟨⟨hneighbour.document,
      hneighbour.boundary.trans hb, hneighbour.genuine, hbm, j, by omega, hpdepth⟩, rfl⟩⟩

/-- The path of an element without id does not end with an id. -/
theorem LiesBelow.levels_ne_of_id {k : Nat} (h : LiesBelow d b (k + 1) v) (hid : v.id? = none)
    (id : String) : levels (k + 1) v ≠ [[.simple (.id id)]] := by
  obtain ⟨p, above, -, hlevels, -⟩ := h.exists_levels hid
  intro heq
  have hlast := congrArg List.getLast? heq
  rw [hlevels, level_of_no_id hid, List.getLast?_concat] at hlast
  simp at hlast

/-- **Elements below a boundary have different paths.** The induction is on the budget, from
the elements to their parents. -/
theorem node_eq_of_levels_eq (hl : d.LinksAgree) (hids : d.HasDistinctIds) {k : Nat}
    (hv : LiesBelow d b k v) (hw : LiesBelow d b k w) (h : levels k v = levels k w) :
    v.node = w.node := by
  induction k generalizing v w with
  | zero =>
    obtain ⟨i, hi, -⟩ := hv.depth
    exact absurd hi (Nat.not_lt_zero i)
  | succ k ih =>
    cases hvid : v.id? with
    | some id =>
      rw [levels_of_id hvid] at h
      cases hwid : w.id? with
      | some id' =>
        rw [levels_of_id hwid] at h
        obtain rfl : id = id' := by simpa using h
        exact hids _ _ _ _ id (hv.document ▸ hv.genuine) (hw.document ▸ hw.genuine) hvid hwid
      | none => exact absurd h.symm (hw.levels_ne_of_id hwid id)
    | none =>
      cases hwid : w.id? with
      | some id =>
        rw [levels_of_id hwid] at h
        exact absurd h (hv.levels_ne_of_id hvid id)
      | none =>
        obtain ⟨p, above, hp, hlevels, hcase⟩ := hv.exists_levels hvid
        obtain ⟨q, above', hq, hlevels', hcase'⟩ := hw.exists_levels hwid
        rw [hlevels, hlevels'] at h
        obtain ⟨habove, hlevel⟩ := List.append_inj' h rfl
        have hpq : p.node = q.node := by
          rcases hcase with ⟨hpb, rfl⟩ | ⟨hpbelow, rfl⟩ <;>
            rcases hcase' with ⟨hqb, rfl⟩ | ⟨hqbelow, rfl⟩
          · exact hpb.trans hqb.symm
          · exact absurd habove.symm hqbelow.levels_ne_nil
          · exact absurd habove hpbelow.levels_ne_nil
          · exact ih hpbelow hqbelow habove
        exact node_eq_of_level_eq hl hv.document hw.document hv.genuine hw.genuine hp hq hpq hvid
          hwid (List.singleton_inj.1 hlevel)

/-! ### Paths can be read back -/

/-- A level with plain labels can be read back. -/
theorem isPlain_level (h : v.element.HasPlainLabels) : (level v).IsPlain := by
  cases hid : v.id? with
  | some id =>
    rw [level_of_id hid]
    have hplain : Part.IsPlain (.simple (.id id)) := h.id id hid
    exact hplain.singleton
  | none =>
    rw [level_of_no_id hid, ← List.singleton_append]
    have htag : Part.IsPlain (.simple (.type v.tag)) := isPlainName_lower h.tagName
    refine htag.singleton.append (List.forall_mem_append.2 ⟨?_, ?_⟩)
    · exact List.forall_mem_map.2 fun name hm => ⟨h.classes name hm, rfl⟩
    · exact List.forall_mem_map.2 fun k _ => ⟨trivial, rfl⟩

/-- So can all levels of a path. -/
theorem isPlain_levels (h : v.document.HasPlainLabels) (hv : v.Genuine) (k : Nat) :
    ∀ c ∈ levels k v, c.IsPlain := by
  induction k generalizing v with
  | zero => simp [levels]
  | succ k ih =>
    have hlevel : ∀ c ∈ [level v], c.IsPlain :=
      List.forall_mem_singleton.2 (isPlain_level (h _ _ hv))
    rcases levels_cases k v with hlevels | ⟨p, hp, hlevels⟩
    · rw [hlevels]
      exact hlevel
    · obtain ⟨hneighbour, -⟩ := parent?_eq_some_iff.1 hp
      rw [hlevels]
      exact List.forall_mem_append.2
        ⟨ih (hneighbour.document ▸ h) hneighbour.genuine, hlevel⟩

end Vicinity

namespace Inspector

variable {d : Document} {b n : NodeId}

/-- **The full path that is handed out** for an element below the boundary. -/
theorem exists_levels_of_fullPath (hd : Document.TreeShaped d) {choices : Choices} {c : Candidate}
    (hn : d.IsElementAncestor b n) (hc : c ∈ (Inspector.mk d (some b) choices).candidates n)
    (hk : c.kind = .fullPath) :
    ∃ v, Vicinity.LiesBelow d b d.size v ∧ v.node = n ∧
      c.selector = (Selector.ofLevels (levels d.size v)).render := by
  obtain ⟨v, hv, hproposed⟩ := exists_of_mem_candidates hc
  obtain ⟨rfl, hb, rfl, hgenuine⟩ := Vicinity.at?_eq_some_iff.1 hv
  obtain ⟨p, hp, rfl⟩ := Vicinity.mem_candidates_iff.1 hproposed
  cases hp with
  | fullPath => exact ⟨v, ⟨rfl, hb, hgenuine, hn, hd.exists_hasDepth_lt v.node⟩, rfl, rfl⟩
  | _ => cases hk

/-- No two elements of the sample form share an id, as none has one. -/
theorem hasDistinctIds_formPage : Document.formPage.HasDistinctIds := by
  have hnone : ∀ n < 8, ∀ e ∈ Document.formPage.element? n, e.id? = none := by decide
  intro n n' e e' id he _ hid _
  have hn : n < 8 := (show Vicinity.Genuine ⟨Document.formPage, none, n, e⟩ from he).lt_size
  simp [hnone n hn e he] at hid

/-- **Full paths tell elements apart.** In a tree-shaped document with plain labels and
distinct ids, two different elements below a boundary, each through elements, both have a
full path, and no text of a full path for the one is the text of one for the other. -/
theorem fullPaths_differ (hd : Document.TreeShaped d) (hplain : d.HasPlainLabels)
    (hids : d.HasDistinctIds) {n₁ n₂ : NodeId} (hn₁ : d.isElement n₁)
    (hn₂ : d.isElement n₂) (hne : n₁ ≠ n₂) (h₁ : d.IsElementAncestor b n₁)
    (h₂ : d.IsElementAncestor b n₂) :
    (∃ c₁ ∈ (repeating d (some b)).candidates n₁, c₁.kind = .fullPath) ∧
      (∃ c₂ ∈ (repeating d (some b)).candidates n₂, c₂.kind = .fullPath) ∧
      ∀ choices₁ choices₂, ∀ c₁ ∈ (Inspector.mk d (some b) choices₁).candidates n₁,
        ∀ c₂ ∈ (Inspector.mk d (some b) choices₂).candidates n₂,
          c₁.kind = .fullPath → c₂.kind = .fullPath → c₁.selector ≠ c₂.selector := by
  have hexists : ∀ n, d.isElement n →
      ∃ c ∈ (repeating d (some b)).candidates n, c.kind = .fullPath := by
    intro n hn
    obtain ⟨v, hv⟩ := exists_at?_of_isElement hn
    exact ⟨_, mem_candidates_of_proposes hv .fullPath, rfl⟩
  refine ⟨hexists n₁ hn₁, hexists n₂ hn₂, fun choices₁ choices₂ c₁ hc₁ c₂ hc₂ hk₁ hk₂ heq => hne ?_⟩
  obtain ⟨v, hv, rfl, hselector₁⟩ := exists_levels_of_fullPath hd h₁ hc₁ hk₁
  obtain ⟨w, hw, rfl, hselector₂⟩ := exists_levels_of_fullPath hd h₂ hc₂ hk₂
  have hv' := Vicinity.isPlain_levels (hv.document ▸ hplain) hv.genuine d.size
  have hw' := Vicinity.isPlain_levels (hw.document ▸ hplain) hw.genuine d.size
  rw [hselector₁, hselector₂] at heq
  have hlevels := ofLevels_inj hv.levels_ne_nil hw.levels_ne_nil
    (eq_of_render_eq (isPlain_ofLevels hv.levels_ne_nil hv')
      (isPlain_ofLevels hw.levels_ne_nil hw') heq)
  exact Vicinity.node_eq_of_levels_eq hd.linksAgree hids hv hw hlevels

/-- The two controls of the sample form have different full paths: their tags are the same up
to case, so their indices tell them apart. -/
theorem fullPaths_differ_formPage :
    Document.formPage.IsElementAncestor 2 4 ∧ Document.formPage.IsElementAncestor 2 7 ∧
      ∀ choices₁ choices₂,
        ∀ c₁ ∈ (Inspector.mk Document.formPage (some 2) choices₁).candidates 4,
        ∀ c₂ ∈ (Inspector.mk Document.formPage (some 2) choices₂).candidates 7,
          c₁.kind = .fullPath → c₂.kind = .fullPath → c₁.selector ≠ c₂.selector := by
  have hplain : Document.formPage.HasPlainLabels := fun n e he =>
    (hasPlainNames_formPage n e he).hasPlainLabels
  have hform : Document.formPage.parentElement? 3 = some 2 := by decide
  have hfirst : Document.formPage.parentElement? 4 = some 3 := by decide
  have hsecond : Document.formPage.parentElement? 7 = some 3 := by decide
  have hbelow₁ : Document.formPage.IsElementAncestor 2 4 := .tail (.single hform) hfirst
  have hbelow₂ : Document.formPage.IsElementAncestor 2 7 := .tail (.single hform) hsecond
  exact ⟨hbelow₁, hbelow₂, (fullPaths_differ Document.treeShaped_formPage hplain
    hasDistinctIds_formPage (by decide) (by decide) (by decide) hbelow₁ hbelow₂).2.2⟩

end Inspector

end Inspection

end SelectorFinder
