import SelectorFinder.Proofs.Inspection.FullPaths

/-!
# Excluding a Sibling

One candidate names an element by its tag and excludes the first of its siblings by that
sibling's basic selector. Nothing is asked of the sibling: it may look like the element. The
candidate is written all the same, as nothing that is proposed is matched against the document,
and then it does not select the element. This module says when it does, namely if the one name
that the basic selector goes by tells the sibling from the element.

## Main results

* `mem_classes_iff`: the class names that are read off an element are those that hold of it.
* `holdAt_basic_iff`: when a basic selector holds of another element.
* `notSibling_selects_iff`: when the candidate selects its element.
* `notSibling_not_selects`: an element for which it does not.
-/

namespace SelectorFinder

open SelectorFinder.Dom SelectorFinder.Selector SelectorFinder.Text

/-- All elements of the document have plain tokens. -/
def Dom.Document.HasPlainTokens (d : Document) (separates : Char → Bool) : Prop :=
  ∀ n e, d.element? n = some e → e.HasPlainTokens separates

/-- A page with a list of two items, of different classes. -/
def Dom.Document.listPage : Document :=
  Document.empty
    |>.attach 0 (.element ⟨"ul", .empty⟩)
    |>.attach 1 (.element ⟨"li", .ofList [("class", "a")]⟩)
    |>.attach 1 (.element ⟨"LI", .ofList [("class", "b c")]⟩)

/-- **One element is told from another** by what the basic selector of the one goes by: by its
id, if it has one, as no two elements share it; else by a class that the other lacks, if it has
classes; else by its tag. -/
inductive Dom.Element.ToldFrom (f e : Element) : Prop
  | byId {id : String} (hid : f.id? = some id)
  | byClass {name : String} (hid : f.id? = none) (hname : name ∈ f.classes)
      (hother : name ∉ e.classes)
  | byTag (hid : f.id? = none) (hclasses : f.classes = []) (hother : e.localName ≠ f.localName)

section Element

variable {separates : Char → Bool} {e f : Element}

/-- **The class names** that are read off a plain element are those that hold of it. -/
theorem mem_classes_iff (he : e.HasPlainTokens separates)
    (hsep : ∀ c, separates c = true → isBlank c = true) {name : String} :
    name ∈ e.classes ↔ (Simple.className name).Holds separates e := by
  refine ⟨fun h => (holds_of_mem_classes he hsep h).2, ?_⟩
  rintro ⟨value, hv, htoken⟩
  have hblank := isBlank_eq_of_hasPlainTokens he hsep hv
  have hrun : name.toList ∈ runs isBlank value.toList :=
    (htoken.congr fun c hc => (hblank c hc).symm).mem_runs
  rw [Element.classes, hv]
  exact List.mem_map.2 ⟨name.toList, hrun, String.ofList_toList⟩

/-- Labels that are plain as they are read off the element are plain tokens. -/
theorem Dom.Element.HasPlainLabels.hasPlainTokens (h : e.HasPlainLabels) :
    e.HasPlainTokens isBlank where
  tagName := h.tagName
  id id hget hne := h.id id (Option.filter_eq_some_iff.2 ⟨hget, by simpa using hne⟩)
  classes value hv word hword := by
    refine h.classes _ ?_
    rw [Element.classes, hv]
    exact List.mem_map_of_mem hword.mem_runs

namespace Dom.Element

/-- Without an id, an element with classes is told by a class that the other lacks. -/
theorem toldFrom_iff_of_classes (hid : f.id? = none) (hclasses : f.classes ≠ []) :
    f.ToldFrom e ↔ ∃ name ∈ f.classes, name ∉ e.classes := by
  constructor
  · rintro (hid' | ⟨-, hname, hother⟩ | ⟨-, hnil, -⟩)
    · simp [hid] at hid'
    · exact ⟨_, hname, hother⟩
    · exact absurd hnil hclasses
  · rintro ⟨name, hname, hother⟩
    exact .byClass hid hname hother

/-- With neither id nor classes, it is told by its tag. -/
theorem toldFrom_iff_of_no_classes (hid : f.id? = none) (hclasses : f.classes = []) :
    f.ToldFrom e ↔ e.localName ≠ f.localName := by
  constructor
  · rintro (hid' | ⟨-, hname, -⟩ | ⟨-, -, hother⟩)
    · simp [hid] at hid'
    · simp [hclasses] at hname
    · exact hother
  · exact .byTag hid hclasses

end Dom.Element

end Element

namespace Inspection

open Strategy

variable {separates : Char → Bool} {v w : Vicinity}

namespace Vicinity

/-! ### The basic selector -/

/-- The basic selector of an element with an id is the id. -/
theorem basic_of_id {id : String} (h : v.id? = some id) : v.basic = [.id id] := by
  rw [basic, h]

/-- Without an id and classes it is the tag. -/
theorem basic_of_no_classes (hid : v.id? = none) (hclasses : v.classes = []) :
    v.basic = [.type v.tag] := by
  rw [basic, hid, hclasses]

/-- Without an id it is all classes, if there are any. -/
theorem basic_of_classes (hid : v.id? = none) (hclasses : v.classes ≠ []) :
    v.basic = v.classes.map .className := by
  obtain ⟨first, more, hcons⟩ := List.exists_cons_of_ne_nil hclasses
  rw [basic, hid, hcons]

/-- **The basic selector of one element holds of another** unless the one is told from the
other by what it goes by. -/
theorem holdAt_basic_iff (hv : v.Genuine) (htokens : v.element.HasPlainTokens separates)
    (hsep : ∀ c, separates c = true → isBlank c = true)
    (hids : ∀ id, w.element.id? = some id → v.element.id? ≠ some id) :
    HoldAt separates v.document v.node w.basic ↔ ¬ w.element.ToldFrom v.element := by
  rw [holdAt_iff hv]
  cases hid : w.element.id? with
  | some id =>
    have hother : ¬ (Simple.id id).Holds separates v.element := fun h =>
      hids id hid (Option.filter_eq_some_iff.2 ⟨h, by simpa using Element.id?_ne_empty hid⟩)
    rw [basic_of_id hid, List.forall_mem_singleton]
    exact iff_of_false hother (not_not_intro (.byId hid))
  | none =>
    by_cases hclasses : w.element.classes = []
    · have htag : (Simple.type w.tag).Holds separates v.element ↔
          v.element.localName = w.element.localName := by
        rw [Simple.Holds, Vicinity.tag, Element.localName, Element.localName, lower_lower]
      rw [basic_of_no_classes hid hclasses, List.forall_mem_singleton, htag,
        Element.toldFrom_iff_of_no_classes hid hclasses, not_not]
    · rw [basic_of_classes hid hclasses, List.forall_mem_map,
        Element.toldFrom_iff_of_classes hid hclasses]
      simp only [← mem_classes_iff htokens hsep, not_exists, not_and, not_not]
      rfl

/-! ### The candidate -/

/-- **The tag without a sibling selects an element** exactly if the sibling is told from it. -/
theorem selects_isNot_iff (hv : v.Genuine) (htokens : v.element.HasPlainTokens separates)
    (hother : w.element.HasPlainTokens separates)
    (hsep : ∀ c, separates c = true → isBlank c = true)
    (hids : ∀ id, w.element.id? = some id → v.element.id? ≠ some id) :
    Selects separates v.document (ofCompound (tagged v ++ [.isNot w.basic])).render v.node ↔
      w.element.ToldFrom v.element := by
  have htag := fits_tagged hv htokens
  have hplain : (Part.isNot w.basic).IsPlain := arePlain_basic hother hsep
  have hcompound : Compound.IsPlain (tagged v ++ [.isNot w.basic]) :=
    htag.plain.append (List.forall_mem_singleton.2 ⟨hplain, rfl⟩)
  rw [selects_render_iff (isPlain_ofCompound hcompound), matches_ofCompound, holds_append]
  have hnot : Compound.Holds separates v.document v.node [.isNot w.basic] ↔
      ¬ HoldAt separates v.document v.node w.basic := by
    rw [Compound.Holds, List.forall_mem_singleton]
    exact and_iff_right hv.isElement
  rw [and_iff_right htag.holds, hnot, holdAt_basic_iff hv htokens hsep hids, not_not]

/-- The first other sibling is the first other child element of the parent. -/
theorem find?_siblings (h : v.siblings.find? (·.node != v.node) = some w) :
    ∃ p, v.document.parentElement? v.node = some p ∧
      (v.document.elementChildren p).find? (· != v.node) = some w.node := by
  cases hp : v.parent? with
  | none => simp [siblings_of_parent?_eq_none hp] at h
  | some p =>
    obtain ⟨hneighbour, hparent⟩ := parent?_eq_some_iff.1 hp
    refine ⟨p.node, Document.parentElement?_eq_some_iff.2 ⟨hparent, hneighbour.isElement⟩, ?_⟩
    rw [← map_node_siblings hp, List.find?_map]
    exact congrArg (Option.map Vicinity.node) h

end Vicinity

/-! ### The list of candidates -/

namespace Inspector

variable {d : Document} {n : NodeId} {e : Element}

/-- **The excluding candidate.** In a document with plain tokens and distinct ids, whatever
characters separate class names as long as they are blank, the candidate that excludes a sibling
excludes the first other child element of the parent by its basic selector, and it selects its
element exactly if that sibling is told from it, for every boundary and with repeated texts or
without. -/
theorem notSibling_selects_iff (hsep : ∀ c, separates c = true → isBlank c = true)
    (hplain : d.HasPlainTokens separates) (hids : d.HasDistinctIds) (boundary : Option NodeId)
    (choices : Choices) (he : d.element? n = some e) {c : Candidate}
    (hc : c ∈ (Inspector.mk d boundary choices).candidates n) (hk : c.kind = .notSibling) :
    ∃ p m f, d.parentElement? n = some p ∧ (d.elementChildren p).find? (· != n) = some m ∧
      d.element? m = some f ∧
      c.selector = e.localName ++
        (":not(" ++ renderSimple (Vicinity.basic ⟨d, boundary, m, f⟩) ++ ")") ∧
      (Selects separates d c.selector n ↔ f.ToldFrom e) := by
  obtain ⟨v, hv, hproposed⟩ := exists_of_mem_candidates hc
  obtain ⟨rfl, rfl, rfl, hgenuine⟩ := Vicinity.at?_eq_some_iff.1 hv
  obtain rfl : v.element = e := Option.some.inj (hgenuine.symm.trans he)
  obtain ⟨q, hq, rfl⟩ := Vicinity.mem_candidates_iff.1 hproposed
  cases hq with
  | @notSibling w hw =>
    obtain ⟨p, hp, hfind⟩ := Vicinity.find?_siblings hw
    have hneighbour := Vicinity.isNeighbour_of_mem_siblings (List.mem_of_find?_eq_some hw)
    have hne : w.node ≠ v.node := by simpa using List.find?_some hw
    have hother : ∀ id, w.element.id? = some id → v.element.id? ≠ some id :=
      fun id hwid hvid => hne (hids _ _ _ _ id hneighbour.element? hgenuine hwid hvid)
    refine ⟨p, w.node, w.element, hp, hfind, hneighbour.element?, ?_,
      Vicinity.selects_isNot_iff hgenuine (hplain _ _ hgenuine)
        (hplain _ _ hneighbour.element?) hsep hother⟩
    simp [Proposal.toCandidate, Selector.render, Selector.ofCompound, Compound.render, tagged,
      Part.render, Simple.render]
    rfl
  | _ => cases hk

/-- The second item of the list is selected, as its classes are not that of the first. -/
theorem notSibling_selects_iff_listPage : Selects isBlank Document.listPage "li:not(.a)" 3 := by
  have hlabels : ∀ n < 4, ∀ e ∈ Document.listPage.element? n, isPlainName e.tagName ∧
      e.id? = none ∧ ∀ name ∈ e.classes, isPlainName name := by
    decide +kernel
  have hlt : ∀ {n e}, Document.listPage.element? n = some e → n < 4 := fun {n e} he =>
    (show Vicinity.Genuine ⟨Document.listPage, none, n, e⟩ from he).lt_size
  have hplain : Document.listPage.HasPlainTokens isBlank := by
    intro n e he
    obtain ⟨htag, hid, hclasses⟩ := hlabels n (hlt he) e he
    exact Element.HasPlainLabels.hasPlainTokens ⟨htag, by simp [hid], hclasses⟩
  have hids : Document.listPage.HasDistinctIds := by
    intro n n' e e' id he _ hid _
    simp [(hlabels n (hlt he) e he).2.1] at hid
  have hparent : Document.listPage.parentElement? 3 = some 1 := by decide
  have hfirst : (Document.listPage.elementChildren 1).find? (· != 3) = some 2 := by decide
  have hitem : Document.listPage.element? 2 = some ⟨"li", .ofList [("class", "a")]⟩ := by decide
  have hfind : (Vicinity.siblings ⟨Document.listPage, none, 3,
      ⟨"LI", .ofList [("class", "b c")]⟩⟩).find? (·.node != 3) =
        some ⟨Document.listPage, none, 2, ⟨"li", .ofList [("class", "a")]⟩⟩ := rfl
  have hmem := mem_candidates_of_proposes
    (show Vicinity.at? Document.listPage none 3 = some _ from rfl) (.notSibling hfind)
  obtain ⟨p, m, f, hp, hm, hf, htext, hselects⟩ :=
    notSibling_selects_iff (fun _ hc => hc) hplain hids none ⟨false⟩ rfl hmem rfl
  obtain rfl : 1 = p := Option.some.inj (hparent.symm.trans hp)
  obtain rfl : 2 = m := Option.some.inj (hfirst.symm.trans hm)
  obtain rfl := Option.some.inj (hitem.symm.trans hf)
  have hselector : Element.localName ⟨"LI", .ofList [("class", "b c")]⟩ ++
      (":not(" ++ renderSimple (Vicinity.basic
        ⟨Document.listPage, none, 2, ⟨"li", .ofList [("class", "a")]⟩⟩) ++ ")") =
        "li:not(.a)" := by
    decide +kernel
  rw [htext, hselector] at hselects
  have hclass : "a" ∈ Element.classes ⟨"li", .ofList [("class", "a")]⟩ ∧
      "a" ∉ Element.classes ⟨"LI", .ofList [("class", "b c")]⟩ := by
    decide +kernel
  exact hselects.2 (.byClass rfl hclass.1 hclass.2)

/-- **A sibling that looks like the element**: both controls of the sample form go by their tag,
which is the same up to case, so the candidate that excludes the one does not select the other. -/
theorem notSibling_not_selects :
    Document.TreeShaped Document.formPage ∧ Document.formPage.HasPlainTokens isBlank ∧
      Document.formPage.HasDistinctIds ∧ Document.formPage.isElement 7 ∧
      ∃ c ∈ (repeating Document.formPage (some 2)).candidates 7, c.kind = .notSibling ∧
        ¬ Selects isBlank Document.formPage c.selector 7 := by
  have hplain : Document.formPage.HasPlainTokens isBlank := fun n e he =>
    (hasPlainNames_formPage n e he).hasPlainTokens
  have hsecond : Document.formPage.element? 7 = some ⟨"INPUT", .empty⟩ := by decide
  have hgenuine : Vicinity.Genuine ⟨Document.formPage, some 2, 7, ⟨"INPUT", .empty⟩⟩ := hsecond
  have hfirst : Document.formPage.element? 4 =
      some ⟨"input", .ofList [("type", "Radio"), ("data-key", "a")]⟩ := by
    decide
  have hfind : (Vicinity.siblings ⟨Document.formPage, some 2, 7, ⟨"INPUT", .empty⟩⟩).find?
      (·.node != 7) = some ⟨Document.formPage, some 2, 4,
        ⟨"input", .ofList [("type", "Radio"), ("data-key", "a")]⟩⟩ := rfl
  refine ⟨Document.treeShaped_formPage, hplain, hasDistinctIds_formPage, by decide, _,
    mem_candidates_of_proposes (show Vicinity.at? Document.formPage (some 2) 7 = some _ from rfl)
      (.notSibling hfind), rfl, fun hselects => ?_⟩
  have htold := (Vicinity.selects_isNot_iff hgenuine (hplain 7 _ hsecond) (hplain 4 _ hfirst)
    (fun _ hc => hc) (fun id hid => by cases hid)).1 hselects
  rw [Element.toldFrom_iff_of_no_classes rfl rfl] at htold
  exact htold (by decide)

end Inspector

end Inspection

end SelectorFinder
