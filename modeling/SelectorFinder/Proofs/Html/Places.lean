import SelectorFinder.Proofs.Html.Conversion

/-!
# From the Page to the Document

A part of a page is addressed by its place: the indices that lead to it from the parts of the
page, among all children and not only those that are kept. `MadeAt` follows the making of the
document and says which node is made of the element at a place. That node stays what it was
made: whatever is added behind it, it stands in the document with what is kept of its children
below it.

## Main results

* `Content.exists_madeAt`, `Content.MadeAt.unique`: each element becomes one node.
* `Content.MadeAt.numbered`: what stands at this node when all is added.
-/

namespace SelectorFinder.Html

open SelectorFinder.Dom SelectorFinder.Dom.Document

namespace Content

/-- The children of an element; other parts have none. What a template holds is not among
them. -/
def children : Content → List Content
  | element _ _ children _ => children
  | _ => []

/-- The part at a place. -/
def at? : List Content → List Nat → Option Content
  | _, [] => none
  | cs, [i] => cs[i]?
  | cs, i :: place => cs[i]?.bind fun c => at? c.children place

/-- **The node that is made of the element at a place**, when parts of a page are added below
`parent` one after the other. -/
inductive MadeAt : Nat → Document → List Content → List Nat → Nat → Prop
  | here {parent : Nat} {d : Document} {name : String} {attributes : List (String × String)}
      {children template cs : List Content} :
      MadeAt parent d (element name attributes children template :: cs) [0]
        (attach d parent (.element ⟨name, .ofList attributes⟩)).2
  | inside {parent : Nat} {d : Document} {name : String}
      {attributes : List (String × String)} {children template cs : List Content}
      {place : List Nat} {n : Nat} :
      MadeAt (attach d parent (.element ⟨name, .ofList attributes⟩)).2
        (attach d parent (.element ⟨name, .ofList attributes⟩)).1 children place n →
      MadeAt parent d (element name attributes children template :: cs) (0 :: place) n
  | behind {parent : Nat} {d : Document} {c : Content} {cs : List Content} {i : Nat}
      {place : List Nat} {n : Nat} :
      MadeAt parent (addTo parent d c) cs (i :: place) n →
      MadeAt parent d (c :: cs) ((i + 1) :: place) n

variable {parent n m : Nat} {d : Document} {cs : List Content} {place : List Nat}
  {name : String} {attributes : List (String × String)} {children template : List Content}

/-- No node is made at the place of a list itself. -/
theorem not_madeAt_nil : ¬ MadeAt parent d cs [] n := by
  rintro ⟨⟩

/-- **No element becomes two nodes.** -/
theorem MadeAt.unique (h : MadeAt parent d cs place n) (h' : MadeAt parent d cs place m) :
    n = m := by
  induction h with
  | here =>
    cases h' with
    | here => rfl
    | inside h' => exact absurd h' not_madeAt_nil
  | inside h ih =>
    cases h' with
    | here => exact absurd h not_madeAt_nil
    | inside h' => exact ih h'
  | behind _ ih =>
    cases h' with
    | behind h' => exact ih h'

/-- What is at a later place of a list is at the one before in the rest. -/
theorem at?_cons_succ (c : Content) (cs : List Content) (i : Nat) (place : List Nat) :
    at? (c :: cs) ((i + 1) :: place) = at? cs (i :: place) := by
  cases place <;> simp [at?]

/-- **Every element becomes a node.** The induction is on the place, and for each level of it on
the number of parts before. -/
theorem exists_madeAt (parent : Nat) (d : Document)
    (h : at? cs place = some (element name attributes children template)) :
    ∃ n, MadeAt parent d cs place n := by
  induction place generalizing parent d cs with
  | nil => simp [at?] at h
  | cons i place ih =>
    induction i generalizing d cs with
    | zero =>
      cases cs with
      | nil => cases place <;> simp [at?] at h
      | cons c cs =>
        cases place with
        | nil =>
          obtain rfl : c = element name attributes children template := by simpa [at?] using h
          exact ⟨_, .here⟩
        | cons j place =>
          have hinside : at? c.children (j :: place) =
              some (element name attributes children template) := h
          cases c with
          | element name' attributes' children' template' =>
            obtain ⟨n, hn⟩ := ih _ _ hinside
            exact ⟨n, .inside hn⟩
          | _ => cases place <;> simp [at?, Content.children] at hinside
    | succ i ihi =>
      cases cs with
      | nil => cases place <;> simp [at?] at h
      | cons c cs =>
        rw [at?_cons_succ] at h
        obtain ⟨n, hn⟩ := ihi (addTo parent d c) h
        exact ⟨n, .behind hn⟩

/-! ### What stands at the node -/

/-- The element with what is kept below it. -/
abbrev branchOf (name : String) (attributes : List (String × String)) (children : List Content) :
    Branch :=
  .element ⟨name, ⟨Attributes.settled attributes⟩⟩ (partsAll isKept children)

/-- **The node made of an element is not touched again**: when the parts are all added, the
element stands there with what is kept of its children, among the new numbers. -/
theorem MadeAt.numbered (h : MadeAt parent d cs place n)
    (hat : at? cs place = some (element name attributes children template)) (hd : d.TreeShaped)
    (hp : parent < d.size) :
    d.size ≤ n ∧ n + (branchOf name attributes children).count ≤ (addAllTo parent d cs).size ∧
      (addAllTo parent d cs).Numbered n (branchOf name attributes children) := by
  induction h with
  | @here parent d name' attributes' children' template' cs =>
    obtain ⟨rfl, rfl, rfl, -⟩ : name' = name ∧ attributes' = attributes ∧ children' = children ∧
      template' = template := by simpa [at?] using hat
    have hadds := adds_addAllTo hd hp (element name' attributes' children' template' :: cs)
    have hsize : _ = d.size + ((branchOf name' attributes' children').count +
      Branch.countAll (partsAll isKept cs)) := hadds.size
    exact ⟨Nat.le_refl _, by rw [attach_eq]; omega, hadds.numbered.1⟩
  | @inside parent d name' attributes' children' template' cs place n h ih =>
    have hne : place ≠ [] := fun hnil => not_madeAt_nil (hnil ▸ h)
    have hat' : at? children' place = some (element name attributes children template) := by
      obtain ⟨j, place, rfl⟩ := List.exists_cons_of_ne_nil hne
      exact hat
    have hinside := ih hat' (hd.attach hp (by simp)) (by simp [attach_eq])
    simp only [attach_eq, size_attach] at hinside
    obtain ⟨hle, hlast, hnumbered⟩ := hinside
    -- the parts behind are added below `parent`, which is older than the node
    have hfirst := adds_addTo hd hp (element name' attributes' children' template')
    have hsize := hfirst.size
    have hrest := adds_addAllTo hfirst.treeShaped (show parent < _ by omega) cs
    have hgrows := hrest.size
    exact ⟨by omega, Nat.le_trans hlast (hgrows ▸ Nat.le_add_right _ _),
      hrest.numbered_of_lt (by omega) hlast hnumbered⟩
  | @behind parent d c cs i place n h ih =>
    rw [at?_cons_succ] at hat
    have hadds := adds_addTo hd hp c
    have hsize := hadds.size
    obtain ⟨hle, hlast, hnumbered⟩ := ih hat hadds.treeShaped (by omega)
    exact ⟨by omega, hlast, hnumbered⟩

end Content

end SelectorFinder.Html
