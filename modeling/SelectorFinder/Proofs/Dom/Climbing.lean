import SelectorFinder.Proofs.Dom.Paths

/-!
# Climbing

The path of a node is looked for from below: one climbs from parent element to parent element
until the document element is reached, and notes at each step the place of the node left. In
a document where a node lies below itself a climb may go round for ever, and where a node was
appended again the list in which it once stood still holds it. `Climbs` is the climb that
arrives, without a budget.

## Main results

* `Climbs.length_lt_size`: no climb that arrives takes as many steps as there are nodes.
* `Linked.path?_eq_some_iff`: the walk with a budget finds the climbs that arrive, all of them.
* `paths_invert`: the path of a node leads back to it; in a tree-shaped document paths and
  the elements of the page correspond.
-/

namespace SelectorFinder.Dom.Document

/-- **A climb** from a node arrives at `top`, and the places left on the way are the path. -/
inductive Climbs (d : Document) (top : NodeId) : NodeId → List Nat → Prop
  | here : Climbs d top top []
  | up {n m : NodeId} {i : Nat} {path : List Nat} :
      n ≠ top → d.parentElement? n = some m → (d.elementChildren m).idxOf? n = some i →
      Climbs d top m path → Climbs d top n (path ++ [i])

variable {d : Document} {n m top : NodeId} {p q : List Nat}

namespace Climbs

/-- From a node there is one climb at most. -/
theorem unique (hp : d.Climbs top n p) (hq : d.Climbs top n q) : p = q := by
  induction hp generalizing q with
  | here =>
    cases hq with
    | here => rfl
    | up hne _ _ _ => exact absurd rfl hne
  | up hne hm hi _ ih =>
    cases hq with
    | here => exact absurd rfl hne
    | up _ hm' hi' hq =>
      obtain rfl := Option.some.inj (hm.symm.trans hm')
      obtain rfl := Option.some.inj (hi.symm.trans hi')
      rw [ih hq]

/-- **The nodes of a climb**, which are all different: from none of them is the climb longer
than from the first. -/
theorem exists_chain (h : d.Climbs top n p) :
    ∃ chain : List NodeId, chain.length = p.length + 1 ∧ chain.Nodup ∧ ∀ m ∈ chain,
      (m = top ∨ ∃ a, d.parent? m = some a) ∧
      ∃ q, d.Climbs top m q ∧ q.length ≤ p.length := by
  induction h with
  | here => exact ⟨[top], rfl, by simp, by simpa using .here⟩
  | @up n m i path hne hm hi hclimb ih =>
    obtain ⟨chain, hlength, hnodup, hchain⟩ := ih
    have hup : d.Climbs top n (path ++ [i]) := .up hne hm hi hclimb
    refine ⟨n :: chain, by simp [hlength], List.nodup_cons.2 ⟨fun hn => ?_, hnodup⟩, ?_⟩
    · -- from the node itself the climb is longer than from any node of the chain
      obtain ⟨-, q, hq, hle⟩ := hchain n hn
      have := congrArg List.length (hq.unique hup)
      simp at this
      omega
    · intro l hl
      rcases List.mem_cons.1 hl with rfl | hl
      · exact ⟨.inr ⟨m, (parentElement?_eq_some_iff.1 hm).1⟩, _, hup, Nat.le_refl _⟩
      · obtain ⟨hwhere, q, hq, hle⟩ := hchain l hl
        exact ⟨hwhere, q, hq, by simp; omega⟩

/-- **A climb takes fewer steps than there are nodes**, for it meets none of them twice. -/
theorem length_lt_size (h : d.Climbs top n p) (hl : Linked d) (htop : top < d.size) :
    p.length < d.size := by
  obtain ⟨chain, hlength, hnodup, hchain⟩ := h.exists_chain
  have hlt : ∀ m ∈ chain, m < d.size := by
    intro m hm
    rcases (hchain m hm).1 with rfl | ha
    · exact htop
    · obtain ⟨b, hb⟩ := (hl.exists_parent?_iff m).1 ha
      exact hl.lt_of_mem_children hb
  have hle := length_le_of_nodup hnodup hlt
  rwa [hlength] at hle

end Climbs

/-- The walk with a budget finds the climbs that are shorter than the budget. -/
theorem pathDown_eq_some_iff {budget : Nat} {below : List Nat} :
    d.pathDown top budget n below = some p ↔
      ∃ q, d.Climbs top n q ∧ q.length < budget ∧ p = q ++ below := by
  induction budget generalizing n below with
  | zero => simp [pathDown]
  | succ budget ih =>
    rw [pathDown]
    by_cases hn : n = top
    · subst hn
      rw [if_pos rfl, Option.some_inj]
      constructor
      · rintro rfl
        exact ⟨[], .here, by simp, rfl⟩
      · rintro ⟨q, hq, -, rfl⟩
        rw [hq.unique .here, List.nil_append]
    · rw [if_neg hn]
      simp only [Option.bind_eq_bind, Option.bind_eq_some_iff, ih]
      constructor
      · rintro ⟨m, hm, i, hi, q, hq, hlt, rfl⟩
        exact ⟨q ++ [i], .up hn hm hi hq, by simpa using hlt, by simp⟩
      · rintro ⟨q, hq, hlt, rfl⟩
        cases hq with
        | here => exact absurd rfl hn
        | @up n m i q _ hm hi hq =>
          exact ⟨m, hm, i, hi, q, hq, by simpa using hlt, by simp⟩

/-- **The path of a node is that of its climb** to the document element. -/
theorem Linked.path?_eq_some_iff (h : Linked d) :
    d.path? n = some p ↔ ∃ top, d.documentElement? = some top ∧ d.Climbs top n p := by
  simp only [path?, Option.bind_eq_bind, Option.bind_eq_some_iff, pathDown_eq_some_iff,
    List.append_nil]
  refine exists_congr fun top => and_congr_right fun htop => ?_
  have hsize : top < d.size :=
    h.lt_of_mem_children (mem_elementChildren.1 (mem_elementChildren_of_documentElement? htop)).1
  constructor
  · rintro ⟨q, hq, -, rfl⟩
    exact hq
  · intro hp
    exact ⟨p, hp, hp.length_lt_size h hsize, rfl⟩

/-- In a tree-shaped document the nodes that have a path are the document element and the
elements below it. -/
theorem TreeShaped.isSome_path?_iff (h : TreeShaped d) :
    (d.path? n).isSome ↔
      ∃ top, d.documentElement? = some top ∧ (n = top ∨ n ∈ d.descendantElements top) := by
  simp only [Option.isSome_iff_exists, h.path?_eq_some_iff, elementAt?, Option.bind_eq_bind,
    Option.bind_eq_some_iff]
  rw [exists_comm]
  refine exists_congr fun top => ?_
  rw [exists_and_left]
  refine and_congr_right fun htop => ?_
  have hsize : top < d.size := h.linksAgree.lt_size
    (mem_elementChildren.1 (mem_elementChildren_of_documentElement? htop)).1
  rw [h.mem_descendantElements_iff hsize]
  constructor
  · rintro ⟨p, hp⟩
    by_cases hnil : p = []
    · subst hnil
      exact .inl (Option.some.inj hp).symm
    · exact .inr ⟨p, hnil, hp⟩
  · rintro (rfl | ⟨p, -, hp⟩)
    · exact ⟨[], rfl⟩
    · exact ⟨p, hp⟩

/-- **Paths lead up and down alike.** In every built document the path of a node is that of the
climb from it to the document element, if there is one, and it leads back to the node,
whatever was appended again and whichever lists still hold it. If the document is tree-shaped
then a path that leads to a node is its path, and the nodes that have one are the document
element and the elements below it. -/
theorem paths_invert (h : Built d) :
    (∀ n p, d.path? n = some p ↔
      ∃ top, d.documentElement? = some top ∧ d.Climbs top n p) ∧
    (∀ n p, d.path? n = some p → d.elementAt? p = some n) ∧
    (TreeShaped d →
      (∀ n p, d.elementAt? p = some n → d.path? n = some p) ∧
      ∀ n, (d.path? n).isSome ↔
        ∃ top, d.documentElement? = some top ∧ (n = top ∨ n ∈ d.descendantElements top)) :=
  ⟨fun _ _ => h.linked.path?_eq_some_iff, fun _ _ => elementAt?_of_path?,
    fun ht => ⟨fun _ _ => ht.path?_eq_some_iff.2, fun _ => ht.isSome_path?_iff⟩⟩

/-- Two elements below the document element; then the second is appended to the first, and
the document element still lists it. -/
def listedTwice : Document :=
  (empty
    |>.attach 0 (.element ⟨"html", .empty⟩)
    |>.attach 1 (.element ⟨"p", .empty⟩)
    |>.attach 1 (.element ⟨"b", .empty⟩)).link 2 3

/-- The document with the element listed twice can be built. -/
theorem built_listedTwice : Built listedTwice := by
  have htree : TreeShaped (empty
      |>.attach 0 (.element ⟨"html", .empty⟩)
      |>.attach 1 (.element ⟨"p", .empty⟩)
      |>.attach 1 (.element ⟨"b", .empty⟩)) := by
    have hsize : empty.size = 1 := rfl
    refine .attach (.attach (.attach .empty ?_ ?_) ?_ ?_) ?_ ?_ <;> simp [hsize]
  exact htree.built.tail (.append (append?_eq_some_iff.2 ⟨⟨by decide, by decide⟩, rfl⟩))

/-- Two paths lead to the element that is listed twice, and its own is the one that its links
tell of; on the page with a form there is one path to each element. -/
theorem paths_invert_listedTwice :
    Built listedTwice ∧ listedTwice.elementAt? [1] = some 3 ∧
      listedTwice.path? 3 = some [0, 0] ∧ listedTwice.elementAt? [0, 0] = some 3 ∧
      TreeShaped formPage ∧ formPage.path? 7 = some [0, 0, 1] ∧
      (formPage.path? 5).isSome = false := by
  have hpath : listedTwice.path? 3 = some [0, 0] := rfl
  have hforward := (paths_invert built_listedTwice).2.1 3 [0, 0] hpath
  have hback := (paths_invert treeShaped_formPage.built).2.2 treeShaped_formPage
  exact ⟨built_listedTwice, rfl, hpath, hforward, treeShaped_formPage,
    hback.1 7 [0, 0, 1] rfl, rfl⟩

end SelectorFinder.Dom.Document
