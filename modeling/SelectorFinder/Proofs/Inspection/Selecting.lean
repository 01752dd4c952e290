import SelectorFinder.Proofs.Inspection.Contract
import SelectorFinder.Proofs.Selector.Matching
import SelectorFinder.Proofs.Selector.Reading

/-!
# Structural Candidates Select Their Element

The candidates that describe an element by its names and by its place in the tree: read as
selectors, they match the element they are for. This holds in tree-shaped documents whose
names are plain, since names are written without escapes.

## Main results

* `holdAt_basic`: the basic selector of an element holds of it.
* `Given.isPath_levels`: the levels of the full path lead to it.
* `selects_of_mem_candidates`: every structural candidate selects its element.
-/

namespace SelectorFinder

open SelectorFinder.Dom SelectorFinder.Selector SelectorFinder.Text

/-! ### Plain documents -/

/-- **Plain elements**: the tag, the id and the class names are plain names, and the `data-`
attributes have plain names and values that need no escape. -/
structure Dom.Element.IsPlain (separates : Char → Bool) (e : Element) : Prop where
  tagName : isPlainName e.tagName
  id : ∀ id, e.attributes.get? "id" = some id → id ≠ "" → isPlainName id
  classes : ∀ value, e.attributes.get? "class" = some value →
    ∀ word, IsToken separates value.toList word → isPlainName (String.ofList word)
  data : ∀ a ∈ e.attributes.toList, a.1.startsWith "data-" →
    isPlainName a.1 ∧ ∀ c ∈ a.2.toList, isPlainValueChar c

/-- All elements of the document are plain. -/
def Dom.Document.HasPlainNames (d : Document) (separates : Char → Bool) : Prop :=
  ∀ n e, d.element? n = some e → e.IsPlain separates

/-- **Plain tokens**: the tag, the id and the class names are plain names, whatever the other
attributes are. -/
structure Dom.Element.HasPlainTokens (separates : Char → Bool) (e : Element) : Prop where
  tagName : isPlainName e.tagName
  id : ∀ id, e.attributes.get? "id" = some id → id ≠ "" → isPlainName id
  classes : ∀ value, e.attributes.get? "class" = some value →
    ∀ word, IsToken separates value.toList word → isPlainName (String.ofList word)

section Element

variable {separates : Char → Bool} {e : Element}

/-- A plain element has plain names in particular. -/
theorem Dom.Element.IsPlain.hasPlainTokens (he : e.IsPlain separates) :
    e.HasPlainTokens separates where
  tagName := he.tagName
  id := he.id
  classes := he.classes

/-- Lower case stays as it is when it is lowered again. -/
theorem lower_lower (s : String) : lower (lower s) = lower s := by
  rw [lower, lower, String.toList_ofList, List.map_map]
  exact congrArg String.ofList (List.map_congr_left fun c _ => toLower_toLower c)

/-- In the `class` attribute of a plain element exactly the separators are blank. -/
theorem isBlank_eq_of_hasPlainTokens (he : e.HasPlainTokens separates)
    (hsep : ∀ c, separates c = true → isBlank c = true) {value : String}
    (hv : e.attributes.get? "class" = some value) :
    ∀ c ∈ value.toList, isBlank c = separates c := by
  intro c hc
  cases hs : separates c with
  | true => exact hsep c hs
  | false =>
    obtain ⟨run, hrun, hm⟩ := exists_mem_runs hc hs
    have hname := he.classes value hv run (isToken_of_mem_runs hrun)
    exact (plainChar_facts (isPlainChar_of_mem hname c (by simpa using hm))).2.2

/-- **The class names** that are read off a plain element are plain and hold of it. -/
theorem holds_of_mem_classes (he : e.HasPlainTokens separates)
    (hsep : ∀ c, separates c = true → isBlank c = true) {name : String}
    (h : name ∈ e.classes) :
    isPlainName name ∧ (Simple.className name).Holds separates e := by
  rw [Element.classes] at h
  split at h
  next value hv =>
    obtain ⟨run, hrun, rfl⟩ := List.mem_map.1 h
    have htoken : IsToken separates value.toList run :=
      (isToken_of_mem_runs hrun).congr (isBlank_eq_of_hasPlainTokens he hsep hv)
    exact ⟨he.classes value hv run htoken, value, hv, by simpa using htoken⟩
  next => simp at h

/-- **The id** that is read off a plain element is plain and holds of it. -/
theorem holds_of_id? (he : e.HasPlainTokens separates) {name : String} (h : e.id? = some name) :
    isPlainName name ∧ (Simple.id name).Holds separates e := by
  have hget : e.attributes.get? "id" = some name := (Option.filter_eq_some_iff.1 h).1
  exact ⟨he.id name hget (Element.id?_ne_empty h), hget⟩

/-- **The tag in lower case** is plain and holds of the element. -/
theorem holds_localName (he : e.HasPlainTokens separates) :
    isPlainName e.localName ∧ (Simple.type e.localName).Holds separates e :=
  ⟨isPlainName_lower he.tagName, (lower_lower e.tagName).symm⟩

end Element

namespace Selector

/-- **What a text selects**: it reads as a selector, and that selector matches. -/
def Selects (separates : Char → Bool) (d : Document) (text : String) (n : NodeId) : Prop :=
  ∃ s, read? text = some s ∧ s.Matches separates d n

/-- A child is a descendant. -/
theorem relates_descendant {d : Document} {m n : NodeId} (h : d.IsParent m n) :
    Combinator.descendant.Relates d m n :=
  Relation.TransGen.single h

/-- A compound that can be written and that holds of the element at a node. -/
structure Fits (separates : Char → Bool) (d : Document) (n : NodeId) (c : Compound) : Prop where
  plain : c.IsPlain
  holds : c.Holds separates d n

variable {separates : Char → Bool} {d : Document} {m n : NodeId} {c c' : Compound}

/-- A plain selector selects what it matches. -/
theorem selects_render_iff {s : Selector} (h : s.IsPlain) :
    Selects separates d s.render n ↔ s.Matches separates d n := by
  rw [Selects, read?_render h]
  exact ⟨fun ⟨_, hread, hm⟩ => Option.some.inj hread ▸ hm, fun hm => ⟨s, rfl, hm⟩⟩

/-- **A plain selector that matches a node** selects it in its written form. -/
theorem selects_render {s : Selector} (h : s.IsPlain) (hm : s.Matches separates d n) :
    Selects separates d s.render n :=
  (selects_render_iff h).2 hm

/-- A compound that fits still fits with more parts that hold. -/
theorem Fits.append {parts : Compound} (h : Fits separates d n c)
    (hparts : ∀ part ∈ parts,
      (part.IsPlain ∧ part.isType = false) ∧ part.Holds separates d n) :
    Fits separates d n (c ++ parts) where
  plain := h.plain.append fun part hm => (hparts part hm).1
  holds := holds_append.2 ⟨h.holds, h.holds.1, fun part hm => (hparts part hm).2⟩

/-- A compound that fits still fits with one more part that holds. -/
theorem Fits.concat (h : Fits separates d n c) (part : Part) (hplain : part.IsPlain)
    (ht : part.isType = false) (hholds : part.Holds separates d n) :
    Fits separates d n (c ++ [part]) :=
  h.append (List.forall_mem_singleton.2 ⟨⟨hplain, ht⟩, hholds⟩)

/-- A part that holds fits by itself. -/
theorem Part.fits (part : Part) (hn : d.isElement n) (hplain : part.IsPlain)
    (hholds : part.Holds separates d n) : Fits separates d n [part] where
  plain := hplain.singleton
  holds := ⟨hn, List.forall_mem_singleton.2 hholds⟩

/-- A compound that fits a node selects it. -/
theorem Fits.selects (h : Fits separates d n c) :
    Selects separates d (ofCompound c).render n :=
  selects_render (isPlain_ofCompound h.plain) (matches_ofCompound.2 h.holds)

/-- **Two compounds that fit** two elements select the second one, if it stands to the first
as the combinator says. -/
theorem Fits.selects_pair (h : Fits separates d m c) {between : Combinator}
    (hr : between.Relates d m n) (h' : Fits separates d n c') :
    Selects separates d (pair c between c').render n :=
  selects_render (isPlain_pair h.plain h'.plain between)
    (matches_pair.2 ⟨m, h.holds, hr, h'.holds⟩)

end Selector

namespace Inspection

open Strategy

/-! ### Vicinities in plain documents -/

/-- **What is given of a vicinity**: it is genuine, and it looks into a document whose links
agree and whose names are plain. -/
structure Vicinity.Given (separates : Char → Bool) (v : Vicinity) : Prop where
  genuine : v.Genuine
  linksAgree : v.document.LinksAgree
  plain : v.document.HasPlainNames separates
  isBlank : ∀ c, separates c = true → isBlank c = true

namespace Vicinity

variable {separates : Char → Bool} {v w p : Vicinity}

/-- The element in a given vicinity is plain. -/
theorem Given.element (h : v.Given separates) : v.element.IsPlain separates :=
  h.plain v.node v.element h.genuine

/-- The names of the element in a given vicinity are plain. -/
theorem Given.tokens (h : v.Given separates) : v.element.HasPlainTokens separates :=
  h.element.hasPlainTokens

/-- What is given of a vicinity is given of its neighbours. -/
theorem Given.neighbour (h : v.Given separates) (hw : v.IsNeighbour w) : w.Given separates where
  genuine := hw.genuine
  linksAgree := hw.document ▸ h.linksAgree
  plain := hw.document ▸ h.plain
  isBlank := h.isBlank

/-! ### The short forms -/

/-- **The basic selector** is plain. -/
theorem arePlain_basic (h : v.element.HasPlainTokens separates)
    (hsep : ∀ c, separates c = true → isBlank c = true) : ArePlain v.basic := by
  rw [basic]
  split
  next id _ hid =>
    exact ⟨List.cons_ne_nil _ _, List.forall_mem_singleton.2 (holds_of_id? h hid).1, by simp⟩
  next =>
    exact ⟨List.cons_ne_nil _ _, List.forall_mem_singleton.2 (holds_localName h).1, by simp⟩
  next hid hclasses =>
    refine ⟨?_, List.forall_mem_map.2 fun name hm => ?_, fun s hm => ?_⟩
    · simpa using hclasses
    · exact (holds_of_mem_classes h hsep hm).1
    · obtain ⟨name, -, rfl⟩ := List.mem_map.1 (List.mem_of_mem_tail hm)
      rfl

/-- The basic selector of a given vicinity is plain. -/
theorem Given.basic_plain (h : v.Given separates) : ArePlain v.basic :=
  arePlain_basic h.tokens h.isBlank

/-- **The basic selector holds** of its element. -/
theorem Given.holdAt_basic (h : v.Given separates) :
    HoldAt separates v.document v.node v.basic := by
  refine (holdAt_iff h.genuine).2 fun s hs => ?_
  rw [basic] at hs
  split at hs
  next id _ hid =>
    rw [List.mem_singleton.1 hs]
    exact (holds_of_id? h.tokens hid).2
  next =>
    rw [List.mem_singleton.1 hs]
    exact (holds_localName h.tokens).2
  next =>
    obtain ⟨name, hm, rfl⟩ := List.mem_map.1 hs
    exact (holds_of_mem_classes h.tokens h.isBlank hm).2

/-- The basic selector of a given vicinity fits its element. -/
theorem Given.fits_basicOf (h : v.Given separates) :
    Fits separates v.document v.node (basicOf v) where
  plain := h.basic_plain.ofSimple
  holds := (holds_ofSimple h.genuine).2 h.holdAt_basic

/-- **The tag fits** its element. -/
theorem fits_tagged (hv : v.Genuine) (h : v.element.HasPlainTokens separates) :
    Fits separates v.document v.node (tagged v) :=
  Part.fits (.simple (.type v.tag)) hv.isElement (holds_localName h).1
    ((holdAt_iff hv).2 (List.forall_mem_singleton.2 (holds_localName h).2))

/-- The tag of a given vicinity fits its element. -/
theorem Given.fits_tagged (h : v.Given separates) :
    Fits separates v.document v.node (tagged v) :=
  Vicinity.fits_tagged h.genuine h.tokens

/-- **The short forms of a neighbour** fit the neighbour. -/
theorem Given.fits_neighbour (h : v.Given separates) (hw : v.IsNeighbour w) :
    Fits separates v.document w.node (basicOf w) ∧ Fits separates v.document w.node (tagged w) := by
  have hgiven := h.neighbour hw
  rw [← hw.document]
  exact ⟨hgiven.fits_basicOf, hgiven.fits_tagged⟩

/-! ### Places -/

/-- An element stands at its position among the children of its parent. -/
theorem Given.holds_nthChild (h : v.Given separates) (hp : v.parent? = some p) :
    (Part.nthChild v.position).Holds separates v.document v.node := by
  obtain ⟨before, after, hs, hk⟩ := position_spec h.linksAgree h.genuine hp
  exact ⟨p.node, (parent?_eq_some_iff.1 hp).2, before, after, hs, hk⟩

/-- Elements of one type are those of the same tag. -/
theorem sameType_eq_sameTag (hv : v.Genuine) : sameType v.document v.node = v.sameTag := by
  have hv' : v.document.element? v.node = some v.element := hv
  funext m
  rw [sameType, sameTag, hv']
  cases v.document.element? m <;> rfl

/-- An index among the siblings of a type is only there below a parent. -/
theorem exists_parent?_of_typeIndex? {k : Nat} (hk : typeIndex? v = some k) :
    ∃ p, v.parent? = some p ∧ v.placeIn? v.sameTagSiblings = some k := by
  rw [typeIndex?] at hk
  split at hk
  next hlen =>
    cases hp : v.parent? with
    | none => simp [sameTagSiblings_of_parent?_eq_none hp] at hlen
    | some p => exact ⟨p, rfl, hk⟩
  next => simp at hk

/-- **An element stands at its index** among the siblings of its type. -/
theorem Given.holds_nthOfType (h : v.Given separates) {k : Nat} (hk : typeIndex? v = some k) :
    (Part.nthOfType k).Holds separates v.document v.node := by
  obtain ⟨p, hp, hk⟩ := exists_parent?_of_typeIndex? hk
  obtain ⟨before, after, hs, hplace⟩ := placeIn?_sameTagSiblings_spec h.linksAgree h.genuine hp
  refine ⟨p.node, (parent?_eq_some_iff.1 hp).2, before, after, ?_, ?_⟩
  · rw [sameType_eq_sameTag h.genuine, hs]
  · exact Option.some.inj (hk.symm.trans hplace)

/-- Where there are siblings, there is a parent whose element children they are. -/
theorem exists_parent?_of_siblings (hs : v.siblings ≠ []) :
    ∃ p, v.document.parent? v.node = some p ∧
      v.document.elementChildren p = v.siblings.map Vicinity.node := by
  cases hp : v.parent? with
  | none => exact absurd (siblings_of_parent?_eq_none hp) hs
  | some p => exact ⟨p.node, (parent?_eq_some_iff.1 hp).2, (map_node_siblings hp).symm⟩

/-- **The element before** is the one next to it among the children of the parent. -/
theorem Given.relates_previous (h : v.Given separates) (hw : v.previous? = some w) :
    Combinator.nextSibling.Relates v.document w.node v.node := by
  obtain ⟨-, hm⟩ := previous?_eq_some_iff.1 hw
  obtain ⟨p, before, after, hp, hs, -⟩ := h.linksAgree.exists_previousElement?_iff.1 ⟨_, hm⟩
  rw [h.linksAgree.previousElement?_eq hs] at hm
  obtain ⟨front, hfront⟩ := List.getLast?_eq_some_iff.1 hm
  refine ⟨p, front, after.filter v.document.isElement, hp, ?_⟩
  rw [Document.elementChildren, hs, List.filter_append, hfront,
    List.filter_cons_of_pos h.genuine.isElement]
  simp

/-! ### The full path -/

/-- **An element's level** of a path fits it. -/
theorem Given.fits_level (h : v.Given separates) : Fits separates v.document v.node (level v) := by
  rw [level]
  split
  next id hid =>
    obtain ⟨hplain, hholds⟩ := holds_of_id? h.tokens hid
    exact Part.fits (.simple (.id id)) h.genuine.isElement hplain
      ((holdAt_iff h.genuine).2 (List.forall_mem_singleton.2 hholds))
  next =>
    have hclasses : ∀ part ∈ v.classes.map (Part.simple <| .className ·),
        (part.IsPlain ∧ part.isType = false) ∧ part.Holds separates v.document v.node := by
      refine List.forall_mem_map.2 fun name hm => ?_
      obtain ⟨hplain, hholds⟩ := holds_of_mem_classes h.tokens h.isBlank hm
      exact ⟨⟨hplain, rfl⟩,
        (holdAt_iff h.genuine).2 (List.forall_mem_singleton.2 hholds)⟩
    have hindex : ∀ part ∈ (typeIndex? v).toList.map Part.nthOfType,
        (part.IsPlain ∧ part.isType = false) ∧ part.Holds separates v.document v.node := by
      refine List.forall_mem_map.2 fun k hk => ?_
      exact ⟨⟨trivial, rfl⟩, h.holds_nthOfType (Option.mem_toList.1 hk)⟩
    exact (h.fits_tagged.append hclasses).append hindex

/-- **What is asked of a path** to a node: it has levels, each can be written, and together
they lead to the node. -/
structure IsPath (separates : Char → Bool) (d : Document) (n : NodeId) (levels : List Compound) :
    Prop where
  ne_nil : levels ≠ []
  plain : ∀ c ∈ levels, c.IsPlain
  leads : (ofLevels levels).Matches separates d n

/-- An element's own level is a path to it. -/
theorem Given.isPath_level (h : v.Given separates) :
    IsPath separates v.document v.node [level v] where
  ne_nil := List.cons_ne_nil _ _
  plain := List.forall_mem_singleton.2 h.fits_level.plain
  leads := matches_ofCompound.2 h.fits_level.holds

/-- A path to the parent goes on to the element. -/
theorem Given.isPath_concat (h : v.Given separates) {above : List Compound}
    (hp : v.document.IsAncestor p.node v.node)
    (habove : IsPath separates v.document p.node above) :
    IsPath separates v.document v.node (above ++ [level v]) where
  ne_nil := List.append_ne_nil_of_left_ne_nil habove.ne_nil _
  plain := List.forall_mem_append.2
    ⟨habove.plain, List.forall_mem_singleton.2 h.fits_level.plain⟩
  leads := matches_ofLevels_concat habove.ne_nil habove.leads hp h.fits_level.holds

/-- **The levels of an element** are its own alone, or those of its parent and its own. -/
theorem levels_cases (budget : Nat) (v : Vicinity) :
    levels (budget + 1) v = [level v] ∨
      ∃ p, v.parent? = some p ∧ levels (budget + 1) v = levels budget p ++ [level v] := by
  rw [levels]
  split
  next => exact .inl rfl
  next =>
    split
    next p hp => exact .inr ⟨p, (anchor?_eq_some_iff.1 hp).1, rfl⟩
    next => exact .inl rfl

/-- **The levels from any ancestor down are a path**: each stands for an element, and each
but the first for one below that of the level before. -/
theorem Given.isPath_levels (h : v.Given separates) (budget : Nat) :
    IsPath separates v.document v.node (levels (budget + 1) v) := by
  induction budget generalizing v with
  | zero =>
    rcases levels_cases 0 v with hlevels | ⟨p, -, hlevels⟩
    all_goals
      rw [hlevels]
      exact h.isPath_level
  | succ budget ih =>
    rcases levels_cases (budget + 1) v with hlevels | ⟨p, hp, hlevels⟩
    · rw [hlevels]
      exact h.isPath_level
    · obtain ⟨hneighbour, hparent⟩ := parent?_eq_some_iff.1 hp
      have habove := ih (h.neighbour hneighbour)
      rw [hneighbour.document] at habove
      rw [hlevels]
      exact h.isPath_concat (.single hparent) habove

end Vicinity

/-! ### The candidates -/

/-- **The structural kinds**: those whose selectors speak of the element's names and of its
place in the tree, not of its state or its content. -/
def CandidateKind.isStructural : CandidateKind → Bool
  | basic | fullPath | attributes | nthChild | viaParent | directChild | adjacentSibling
  | hasChild | hasTag | weightless | isParent | nthOfType | firstChild | lastChild
  | onlyChild => true
  | _ => false

section Proposals

variable {separates : Char → Bool} {v : Vicinity}

/-- **Data attributes** fit their element. -/
theorem Vicinity.Given.fits_dataAttributes (h : v.Given separates) :
    Fits separates v.document v.node (tagged v ++
      v.dataAttributes.map fun (name, value) => Part.simple (.attr name value)) := by
  have hattribute : ∀ part ∈ v.dataAttributes.map
      (fun (name, value) => Part.simple (.attr name value)),
      (part.IsPlain ∧ part.isType = false) ∧ part.Holds separates v.document v.node := by
    refine List.forall_mem_map.2 fun a ha => ?_
    obtain ⟨hmem, hdata⟩ := List.mem_filter.1 ha
    have hmem := List.mem_of_mem_filter hmem
    exact ⟨⟨h.element.data a hmem hdata, rfl⟩,
      (holdAt_iff h.genuine).2 (List.forall_mem_singleton.2 hmem)⟩
  exact h.fits_tagged.append hattribute

/-- A state that says where the element stands among its siblings fits it. -/
theorem Vicinity.Given.selects_inState (h : v.Given separates) {kind : CandidateKind}
    {state description : String} (hname : isPlainName state)
    (hplace : ∃ p, v.document.parent? v.node = some p ∧
      HasPlace state (v.document.elementChildren p) v.node) :
    Selects separates v.document (inState kind state description v).selector.render v.node :=
  (h.fits_basicOf.concat (.state state) hname rfl hplace).selects

/-- An element is selected from a neighbour to which the combinator relates it. -/
theorem Vicinity.Given.selects_fromNeighbour (h : v.Given separates) {w : Vicinity}
    (hw : v.IsNeighbour w) {between : Combinator}
    (hr : between.Relates v.document w.node v.node) :
    Selects separates v.document (pair (basicOf w) between (tagged v)).render v.node :=
  (h.fits_neighbour hw).1.selects_pair hr h.fits_tagged

/-- An element that contains another is selected by what fits that one. -/
theorem Vicinity.Given.selects_has (h : v.Given separates) {c : Vicinity}
    {cs : List Vicinity} (hc : v.children = c :: cs) {inner : List Simple}
    (hplain : ArePlain inner) (hholds : HoldAt separates v.document c.node inner) :
    Selects separates v.document (ofCompound (tagged v ++ [.has inner])).render v.node := by
  have hchild : c.node ∈ v.document.elementChildren v.node := by
    rw [← v.map_node_children, hc]
    exact List.mem_cons_self
  have hparent := h.linksAgree.parent?_eq_of_mem_elementChildren hchild
  exact (h.fits_tagged.concat (.has inner) hplain rfl
    ⟨c.node, .single hparent, hholds⟩).selects

/-- **Every structural proposal selects its element.** -/
theorem Strategy.Proposes.selects (h : v.Given separates) {p : Proposal} (hp : Proposes v p)
    (hk : p.kind.isStructural) : Selects separates v.document p.selector.render v.node := by
  have hn := h.genuine.isElement
  cases hp with
  | basic => exact h.fits_basicOf.selects
  | fullPath =>
    obtain ⟨budget, hb⟩ := Nat.exists_eq_add_one.2 (Nat.zero_lt_of_lt h.genuine.lt_size)
    have hpath := hb ▸ h.isPath_levels budget
    exact selects_render (isPlain_ofLevels hpath.ne_nil hpath.plain) hpath.leads
  | attributes => exact h.fits_dataAttributes.selects
  | nthChild hparent =>
    obtain ⟨hneighbour, hup⟩ := Vicinity.parent?_eq_some_iff.1 hparent
    exact (h.fits_neighbour hneighbour).2.selects_pair hup
      (Part.fits (.nthChild v.position) hn trivial (h.holds_nthChild hparent))
  | nthChildOfNone => exact h.fits_tagged.selects
  | viaParent hanchor =>
    obtain ⟨hneighbour, hup⟩ :=
      Vicinity.parent?_eq_some_iff.1 (Vicinity.anchor?_eq_some_iff.1 hanchor).1
    exact h.selects_fromNeighbour hneighbour (relates_descendant hup)
  | directChild hanchor =>
    obtain ⟨hneighbour, hup⟩ :=
      Vicinity.parent?_eq_some_iff.1 (Vicinity.anchor?_eq_some_iff.1 hanchor).1
    exact h.selects_fromNeighbour hneighbour hup
  | adjacentSibling hprevious =>
    have hneighbour := (Vicinity.previous?_eq_some_iff.1 hprevious).1
    exact h.selects_fromNeighbour hneighbour (h.relates_previous hprevious)
  | hasChild hc =>
    have hneighbour := Vicinity.isNeighbour_of_mem_children (hc ▸ List.mem_cons_self)
    have hgiven := h.neighbour hneighbour
    exact h.selects_has hc hgiven.basic_plain (hneighbour.document ▸ hgiven.holdAt_basic)
  | hasTag hc =>
    have hneighbour := Vicinity.isNeighbour_of_mem_children (hc ▸ List.mem_cons_self)
    have hgiven := h.neighbour hneighbour
    obtain ⟨hplain, hholds⟩ := holds_localName hgiven.tokens
    exact h.selects_has hc (ArePlain.singleton hplain)
      ⟨_, hneighbour.element?, List.forall_mem_singleton.2 hholds⟩
  | weightless => exact (Part.fits (.whereAny v.basic) hn h.basic_plain h.holdAt_basic).selects
  | isParent hparent =>
    obtain ⟨hneighbour, hup⟩ := Vicinity.parent?_eq_some_iff.1 hparent
    have hgiven := h.neighbour hneighbour
    have hbasic := hneighbour.document ▸ hgiven.holdAt_basic
    exact (Part.fits (.isAny _) hneighbour.isElement hgiven.basic_plain hbasic).selects_pair
      (relates_descendant hup) h.fits_tagged
  | nthOfType hindex =>
    exact (h.fits_tagged.concat (.nthOfType _) trivial rfl (h.holds_nthOfType hindex)).selects
  | firstChild hs hf =>
    obtain ⟨p, hp, hchildren⟩ := Vicinity.exists_parent?_of_siblings (hs ▸ List.cons_ne_nil _ _)
    refine h.selects_inState (by decide) ⟨p, hp, ?_⟩
    rw [hchildren, hs, List.map_cons, hf]
    exact ⟨_, rfl⟩
  | lastChild hs hl =>
    obtain ⟨p, hp, hchildren⟩ := Vicinity.exists_parent?_of_siblings
      (hs ▸ List.append_ne_nil_of_right_ne_nil _ (List.cons_ne_nil _ _))
    refine h.selects_inState (by decide) ⟨p, hp, ?_⟩
    rw [hchildren, hs, List.map_append, List.map_singleton, hl]
    exact ⟨_, rfl⟩
  | onlyChild hs ho =>
    obtain ⟨p, hp, hchildren⟩ := Vicinity.exists_parent?_of_siblings (hs ▸ List.cons_ne_nil _ _)
    refine h.selects_inState (by decide) ⟨p, hp, ?_⟩
    rw [hchildren, hs, List.map_singleton, ho]
    rfl
  | _ => simp [CandidateKind.isStructural, inState] at hk

end Proposals

namespace Inspector

variable {d : Document}

/-- An element without id is plain if its classes are made of letters and its attributes
need no escape. -/
theorem isPlain_of_letters {e : Element} (htag : isPlainName e.tagName)
    (hid : e.attributes.get? "id" = none)
    (hclass : ∀ value ∈ e.attributes.get? "class",
      value.toList.all fun c => isBlank c || isAsciiLetter c)
    (hdata : ∀ a ∈ e.attributes.toList, isPlainName a.1 ∧ a.2.toList.all isPlainValueChar) :
    e.IsPlain isBlank where
  tagName := htag
  id id h := by simp [hid] at h
  classes value hv word hword := by
    obtain ⟨before, after, htext, -⟩ := hword.bounded
    have hletter : ∀ c ∈ word, isAsciiLetter c := by
      intro c hc
      have hor := List.all_eq_true.1 (hclass value hv) c (by simp [htext, hc])
      simpa [hword.notMem c hc] using hor
    obtain ⟨c, cs, rfl⟩ := List.exists_cons_of_ne_nil hword.ne_nil
    obtain ⟨hc, hcs⟩ := List.forall_mem_cons.1 hletter
    rw [isPlainName, String.toList_ofList]
    exact Bool.and_eq_true_iff.2 ⟨hc, List.all_eq_true.2 fun d hd =>
      isPlainChar_of_isAsciiLetter (hcs d hd)⟩
  data a ha _ := ⟨(hdata a ha).1, List.all_eq_true.1 (hdata a ha).2⟩

/-- The names of the sample form are plain. -/
theorem hasPlainNames_formPage : Document.formPage.HasPlainNames isBlank := by
  have hnames : ∀ n < 8, ∀ e ∈ Document.formPage.element? n,
      isPlainName e.tagName ∧ e.attributes.get? "id" = none := by
    decide
  have hclasses : ∀ n < 8, ∀ e ∈ Document.formPage.element? n,
      ∀ value ∈ e.attributes.get? "class",
        value.toList.all fun c => isBlank c || isAsciiLetter c := by
    decide
  have hdata : ∀ n < 8, ∀ e ∈ Document.formPage.element? n, ∀ a ∈ e.attributes.toList,
      isPlainName a.1 ∧ a.2.toList.all isPlainValueChar := by
    decide
  intro n e he
  have hn : n < 8 := (show Vicinity.Genuine ⟨Document.formPage, none, n, e⟩ from he).lt_size
  obtain ⟨htag, hid⟩ := hnames n hn e he
  exact isPlain_of_letters htag hid (hclasses n hn e he) (hdata n hn e he)

/-- What is proposed for an element is among the candidates of its node. -/
theorem mem_candidates_of_proposes {boundary : Option NodeId} {n : NodeId}
    {v : Vicinity} (hv : Vicinity.at? d boundary n = some v) {p : Proposal}
    (hp : Proposes v p) : p.toCandidate v ∈ (repeating d boundary).candidates n := by
  rw [candidates_repeating, emitted_of_at? hv, (perm_rankBy _ _).mem_iff]
  exact Vicinity.mem_candidates_iff.2 ⟨p, hp, rfl⟩

/-- **Structural candidates select their element**: in a tree-shaped document with plain
names, whatever characters separate class names as long as they are blank, the text of every
structural candidate that is handed out for a node reads as a selector that matches this
node, for every boundary and with repeated texts or without. -/
theorem selects_of_mem_candidates {separates : Char → Bool}
    (hsep : ∀ c, separates c = true → isBlank c = true) (hd : Document.TreeShaped d)
    (hplain : d.HasPlainNames separates) (boundary : Option NodeId) (choices : Choices)
    (n : NodeId) {c : Candidate} (hc : c ∈ (Inspector.mk d boundary choices).candidates n)
    (hk : c.kind.isStructural) : Selects separates d c.selector n := by
  obtain ⟨v, hv, hproposed⟩ := exists_of_mem_candidates hc
  obtain ⟨rfl, -, rfl, hgenuine⟩ := Vicinity.at?_eq_some_iff.1 hv
  obtain ⟨p, hp, rfl⟩ := Vicinity.mem_candidates_iff.1 hproposed
  exact hp.selects ⟨hgenuine, hd.linksAgree, hplain, hsep⟩ hk

/-- The second control of a form is selected as the one next to the first. -/
theorem selects_of_mem_candidates_formPage :
    Selects isBlank Document.formPage "input + input" 7 := by
  have hsecond : Document.formPage.element? 7 = some ⟨"INPUT", .empty⟩ := by decide
  have hfirst : Document.formPage.element? 4 =
      some ⟨"input", .ofList [("type", "Radio"), ("data-key", "a")]⟩ := by
    decide
  have hprevious : Document.formPage.previousElement? 7 = some 4 := by decide
  have hv : Vicinity.at? Document.formPage (some 2) 7 =
      some ⟨Document.formPage, some 2, 7, ⟨"INPUT", .empty⟩⟩ := by
    rw [Vicinity.at?, hsecond, Option.map_some]
  have hw : Vicinity.previous? ⟨Document.formPage, some 2, 7, ⟨"INPUT", .empty⟩⟩ =
      some ⟨Document.formPage, some 2, 4,
        ⟨"input", .ofList [("type", "Radio"), ("data-key", "a")]⟩⟩ := by
    rw [Vicinity.previous?, hprevious, Option.bind_some, Vicinity.other?, Vicinity.at?, hfirst,
      Option.map_some]
  have hmem := mem_candidates_of_proposes hv (.adjacentSibling hw)
  have hselects := selects_of_mem_candidates (fun _ h => h) Document.treeShaped_formPage
    hasPlainNames_formPage (some 2) ⟨false⟩ 7 hmem rfl
  have htext : (pair (basicOf ⟨Document.formPage, some 2, 4,
      ⟨"input", .ofList [("type", "Radio"), ("data-key", "a")]⟩⟩) .nextSibling
      (tagged ⟨Document.formPage, some 2, 7, ⟨"INPUT", .empty⟩⟩)).render = "input + input" := by
    decide
  rw [← htext]
  exact hselects

end Inspector

end Inspection

end SelectorFinder
