import SelectorFinder.CommandLine.Run
import SelectorFinder.Proofs.Dom.Paths
import SelectorFinder.Proofs.Text.Tokens

/-!
# Targets and Their Paths

The command line writes the path of each element that it lists, and takes a path to name one.
Both go through decimal numbers below the bound of an index, and what is written reads back:
as the same indices, and so as the same element.

## Main results

* `readDigits_eq`: digits that write an index are read as it.
* `readPath_pathText`: the text of a path is read as the path.
* `exists_path_of_mem_default`: the elements listed by default have paths.
* `targets_path`: the path that is printed for an element names it.
-/

namespace SelectorFinder.CommandLine

open SelectorFinder.Dom SelectorFinder.Inspection SelectorFinder.Report SelectorFinder.Text

/-! ### Indices -/

/-- Digits behind those of a number do not make it smaller. -/
theorem le_ofDigitChars (cs : List Char) (n : Nat) : n ≤ Nat.ofDigitChars 10 cs n := by
  induction cs generalizing n with
  | nil => exact Nat.le_refl n
  | cons c cs ih =>
    rw [Nat.ofDigitChars_cons]
    have := ih (10 * n + (c.toNat - '0'.toNat))
    omega

/-- **Digits are read** as the number that they write behind those of `n`, provided that it
is an index: none of the numbers on the way is larger. -/
theorem readDigits_eq {cs : List Char} {n : Nat} (hd : ∀ c ∈ cs, c.isDigit = true)
    (hb : Nat.ofDigitChars 10 cs n < indexBound) :
    readDigits n cs = .ok (Nat.ofDigitChars 10 cs n) := by
  induction cs generalizing n with
  | nil => rfl
  | cons c cs ih =>
    rw [Nat.ofDigitChars_cons] at hb ⊢
    have hm : 10 * n + (c.toNat - '0'.toNat) < indexBound :=
      Nat.lt_of_le_of_lt (le_ofDigitChars cs _) hb
    rw [readDigits, if_pos (hd c List.mem_cons_self)]
    simp only [hm, if_true]
    exact ih (fun c hc => hd c (List.mem_cons_of_mem _ hc)) hb

/-- A text that starts with a digit has no sign. -/
theorem readIndex_eq_readDigits {cs : List Char} (hne : cs ≠ [])
    (hd : ∀ c ∈ cs, c.isDigit = true) : readIndex cs = readDigits 0 cs := by
  have hplus : '+' ∉ cs := fun h => absurd (hd _ h) (by decide)
  unfold readIndex
  split
  next => exact absurd rfl hne
  next => exact absurd List.mem_cons_self hplus
  next => exact absurd List.mem_cons_self hplus
  next => rfl

/-- **An index is read** back from its digits. -/
theorem readIndex_toString {n : Nat} (hn : n < indexBound) :
    readIndex (toString n).toList = .ok n := by
  have hdigits : ∀ c ∈ (toString n).toList, c.isDigit = true := fun _ => isDigit_of_mem_toString
  have hvalue : Nat.ofDigitChars 10 (toString n).toList 0 = n := by
    rw [toList_toString, Nat.ofDigitChars_ten_toDigits]
  rw [readIndex_eq_readDigits (toList_toString_ne_nil n) hdigits,
    readDigits_eq hdigits (by rwa [hvalue]), hvalue]

/-! ### Paths -/

/-- Segments are read as the numbers that they were written from. -/
theorem readSegments_map_toString {path : List Nat} (h : ∀ i ∈ path, i < indexBound) :
    readSegments (path.map fun i => (toString i).toList) = .ok path := by
  induction path with
  | nil => rfl
  | cons i path ih =>
    rw [List.map_cons, readSegments, readIndex_toString (h i List.mem_cons_self)]
    simp only [ih fun j hj => h j (List.mem_cons_of_mem _ hj)]
    rfl

/-- **The text of a path is read as the path.** -/
theorem readPath_pathText {path : List Nat} (h : ∀ i ∈ path, i < indexBound) :
    readPath (pathText path) = .ok path := by
  have hsegments : runs (· == '/') (pathText path).toList =
      path.map fun i => (toString i).toList := by
    rw [pathText, String.toList_intercalate, List.map_map]
    refine runs_intercalate (by decide) fun w hw => ?_
    obtain ⟨i, -, rfl⟩ := List.mem_map.1 hw
    refine ⟨toList_toString_ne_nil i, fun c hc => beq_false_of_ne ?_⟩
    rintro rfl
    exact absurd (isDigit_of_mem_toString hc) (by decide)
  rw [readPath, hsegments, readSegments_map_toString h]

/-- Different paths have different texts. -/
theorem pathText_injective {p q : List Nat} (hp : ∀ i ∈ p, i < indexBound)
    (hq : ∀ i ∈ q, i < indexBound) (h : pathText p = pathText q) : p = q :=
  Except.ok.inj ((readPath_pathText hp).symm.trans (h ▸ readPath_pathText hq))

/-! ### Targets -/

variable {d : Document} {o : Options} {n m : NodeId} {path : List Nat}

/-- The boundary and the elements below it are listed where neither an id nor a path is
given. -/
theorem targets_default (hid : o.value? .id = none) (hpath : o.value? .path = none) :
    targets o d (some n) = .ok (n :: d.descendantElements n) := by
  simp [targets, hid, hpath]

/-- A path that leads to an element names it. -/
theorem targets_path (hid : o.value? .id = none) (hpath : o.value? .path = some (pathText path))
    (hindices : ∀ i ∈ path, i < indexBound) (hn : d.elementAt? path = some n)
    (boundary : Option NodeId) : targets o d boundary = .ok [n] := by
  simp [targets, hid, hpath, readPath_pathText hindices, hn]

/-- The indices of a path that leads somewhere are below the number of nodes. -/
theorem lt_size_of_mem_of_follow (hl : d.LinksAgree) (h : d.follow n path = some m) :
    ∀ i ∈ path, i < d.size := by
  induction path generalizing n with
  | nil => simp
  | cons i path ih =>
    obtain ⟨c, hc, hm⟩ := Document.follow_cons_eq_some_iff.1 h
    intro j hj
    rcases List.mem_cons.1 hj with rfl | hj
    · have hlt := (List.getElem?_eq_some_iff.1 hc).1
      have hchildren : (d.elementChildren n).length ≤ (d.children n).length :=
        List.length_filter_le _ _
      have := hl.length_children_le n
      omega
    · exact ih hm j hj

/-- **There is a boundary** where there is a document element, and a path leads to it. -/
theorem exists_defaultBoundary {top : NodeId} (htop : d.documentElement? = some top) :
    ∃ b path, Inspector.defaultBoundary? d = some b ∧ d.follow top path = some b := by
  cases hbody : d.body? with
  | none => exact ⟨top, [], by rw [Inspector.defaultBoundary?, hbody, htop, Option.none_or], rfl⟩
  | some b =>
    have hfind := hbody
    simp only [Document.body?, htop, Option.bind_eq_bind, Option.bind_some] at hfind
    obtain ⟨i, hi⟩ := List.mem_iff_getElem?.1 (List.mem_of_find?_eq_some hfind)
    exact ⟨b, [i], by rw [Inspector.defaultBoundary?, hbody, Option.some_or],
      Document.follow_cons_eq_some_iff.2 ⟨b, hi, rfl⟩⟩

/-- **Each element listed by default has a path.** -/
theorem exists_path_of_mem_default (h : d.TreeShaped) {b : NodeId}
    (hb : Inspector.defaultBoundary? d = some b) (hn : n ∈ b :: d.descendantElements b) :
    ∃ path, d.path? n = some path ∧ ∀ i ∈ path, i < d.size := by
  cases htop : d.documentElement? with
  | none => simp [Inspector.defaultBoundary?, Document.body?, htop] at hb
  | some top =>
    obtain ⟨b', down, hb', hdown⟩ := exists_defaultBoundary htop
    obtain rfl : b' = b := Option.some.inj (hb'.symm.trans hb)
    obtain ⟨below, hbelow⟩ := Document.exists_follow_of_mem_cons hn
    have hfollow : d.follow top (down ++ below) = some n := by
      rw [Document.follow_append, hdown, Option.bind_some, hbelow]
    refine ⟨down ++ below, h.path?_eq_some_iff.2 ?_, lt_size_of_mem_of_follow h.linksAgree hfollow⟩
    rw [Document.elementAt?, htop]
    exact hfollow

/-- **Printed paths lead back.** In a tree-shaped document with a document element, whose
nodes are numbered by machine words, the default targets are the boundary and the elements
below it, each once; each of them is listed with a path, the text of that path given as the
path on the command line names it alone, and no two are listed with the same path. In
general the text of every list of indices is read as that list, the empty text as the empty
list, which leads to the document element. -/
theorem targets_listed_path (h : d.TreeShaped) (hsize : d.size ≤ indexBound)
    (htop : d.documentElement?.isSome) (choices : Choices) :
    (∃ b, (Inspector.ofDocument d choices).boundary = some b ∧
      (∀ o : Options, o.value? .id = none → o.value? .path = none →
        targets o d (some b) = .ok (b :: d.descendantElements b)) ∧
      (b :: d.descendantElements b).Nodup ∧
      (∀ n ∈ b :: d.descendantElements b,
        ∃ text, (Listing.ofNode (.ofDocument d choices) n).path = some text ∧
          ∀ o : Options, o.value? .id = none → o.value? .path = some text →
            targets o d (some b) = .ok [n]) ∧
      (∀ n ∈ b :: d.descendantElements b, ∀ m ∈ b :: d.descendantElements b,
        (Listing.ofNode (.ofDocument d choices) n).path =
          (Listing.ofNode (.ofDocument d choices) m).path → n = m)) ∧
    (∀ path : List Nat, (∀ i ∈ path, i < indexBound) → readPath (pathText path) = .ok path) ∧
    (readPath "" = .ok [] ∧ d.elementAt? [] = d.documentElement?) := by
  obtain ⟨top, htop⟩ := Option.isSome_iff_exists.1 htop
  obtain ⟨b, -, hb, -⟩ := exists_defaultBoundary htop
  have hpaths : ∀ n ∈ b :: d.descendantElements b, ∃ path, d.path? n = some path ∧
      (Listing.ofNode (.ofDocument d choices) n).path = some (pathText path) ∧
      ∀ k ∈ path, k < indexBound := by
    intro n hn
    obtain ⟨path, hpath, hlt⟩ := exists_path_of_mem_default h hb hn
    exact ⟨path, hpath, congrArg (Option.map pathText) hpath,
      fun k hk => Nat.lt_of_lt_of_le (hlt k hk) hsize⟩
  refine ⟨⟨b, hb, fun o => targets_default, h.nodup_cons_descendantElements b,
    fun n hn => ?back, fun n hn m hm heq => ?apart⟩, fun path => readPath_pathText, ?empty⟩
  case back =>
    obtain ⟨path, hpath, hlisted, hlt⟩ := hpaths n hn
    exact ⟨pathText path, hlisted, fun o hid ho =>
      targets_path hid ho hlt (h.path?_eq_some_iff.1 hpath) _⟩
  case apart =>
    obtain ⟨p, hp, hlistedn, hltp⟩ := hpaths n hn
    obtain ⟨q, hq, hlistedm, hltq⟩ := hpaths m hm
    have htext : pathText p = pathText q :=
      Option.some.inj (hlistedn.symm.trans (heq.trans hlistedm))
    obtain rfl := pathText_injective hltp hltq htext
    exact Option.some.inj ((h.path?_eq_some_iff.1 hp).symm.trans (h.path?_eq_some_iff.1 hq))
  case empty =>
    refine ⟨readPath_pathText (List.forall_mem_nil (· < indexBound)), ?_⟩
    rw [Document.elementAt?, htop]
    rfl

/-- The path printed for the second input of the form page, given on the command line. -/
def secondInput : Options where
  file := none
  switches := []
  settings := [(.path, "0/0/1")]

/-- The second input of the form page is the only target at the path that is printed for it. -/
theorem targets_listed_path_formPage :
    Document.formPage.TreeShaped ∧ Document.formPage.size ≤ indexBound ∧
      Document.formPage.documentElement?.isSome ∧
      (∃ text, (Listing.ofNode (.ofDocument Document.formPage ⟨false⟩) 7).path = some text ∧
        ∀ o : Options, o.value? .id = none → o.value? .path = some text →
          targets o Document.formPage (some 2) = .ok [7]) ∧
      (Listing.ofNode (.ofDocument Document.formPage ⟨false⟩) 7).path = some "0/0/1" ∧
      targets secondInput Document.formPage (some 2) = .ok [7] := by
  have hsize : Document.formPage.size ≤ indexBound := by decide
  have htop : Document.formPage.documentElement?.isSome := by decide
  obtain ⟨⟨b, hb, -, -, hback, -⟩, -⟩ :=
    targets_listed_path Document.treeShaped_formPage hsize htop ⟨false⟩
  have hbody : (Inspector.ofDocument Document.formPage ⟨false⟩).boundary = some 2 := by
    decide +kernel
  obtain rfl : b = 2 := Option.some.inj (hb.symm.trans hbody)
  have hmem : 7 ∈ 2 :: Document.formPage.descendantElements 2 := by decide +kernel
  obtain ⟨text, htext, htargets⟩ := hback 7 hmem
  have hwritten : (Listing.ofNode (.ofDocument Document.formPage ⟨false⟩) 7).path =
      some "0/0/1" := by decide +kernel
  obtain rfl : text = "0/0/1" := Option.some.inj (htext.symm.trans hwritten)
  exact ⟨Document.treeShaped_formPage, hsize, htop, ⟨_, htext, htargets⟩, hwritten,
    htargets secondInput rfl rfl⟩

end SelectorFinder.CommandLine
