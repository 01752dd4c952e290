import SelectorFinder.Proofs.Dom.Outline

/-!
# Nodes in Document Order

The nodes of a document are numbered in document order when each part has the numbers from
its own node on, first its node, then the nodes of the parts below it one after the other.
`Numbered` says so of the parts of an outline; it looks at the kinds and the children of the
nodes of those parts alone (`numbered_congr`), and the listing of a document in which it
holds is the list of numbers itself (`Numbered.cons_nodesBelow`).
-/

namespace SelectorFinder.Dom

namespace Branch

mutual

/-- How many nodes there are in a part. -/
def count : Branch → Nat
  | element _ parts => countAll parts + 1
  | text _ => 1
  | comment _ => 1

/-- How many nodes there are in some parts. -/
def countAll : List Branch → Nat
  | [] => 0
  | b :: bs => count b + countAll bs

end

/-- A branch has at least its own node. -/
theorem count_pos (b : Branch) : 0 < b.count := by
  cases b <;> simp [count]

/-- Branches in two lists are counted one list after the other. -/
theorem countAll_append (bs cs : List Branch) :
    countAll (bs ++ cs) = countAll bs + countAll cs := by
  induction bs with
  | nil => simp [countAll]
  | cons b bs ih => simp only [List.cons_append, countAll, ih, Nat.add_assoc]

/-- The first numbers of parts that are numbered one after the other. -/
def starts : Nat → List Branch → List Nat
  | _, [] => []
  | n, b :: bs => n :: starts (n + b.count) bs

/-- The numbers of the second list start where those of the first end. -/
theorem starts_append (n : Nat) (bs cs : List Branch) :
    starts n (bs ++ cs) = starts n bs ++ starts (n + countAll bs) cs := by
  induction bs generalizing n with
  | nil => simp [starts, countAll]
  | cons b bs ih => simp only [List.cons_append, starts, countAll, ih, Nat.add_assoc]

/-- Numbers do not get smaller from branch to branch. -/
theorem le_of_mem_starts {n m : Nat} {bs : List Branch} (h : m ∈ starts n bs) : n ≤ m := by
  induction bs generalizing n with
  | nil => simp [starts] at h
  | cons b bs ih =>
    rcases List.mem_cons.1 h with rfl | h
    · exact Nat.le_refl _
    · exact Nat.le_trans (Nat.le_add_right n b.count) (ih h)

/-- Later parts start later. -/
theorem pairwise_lt_starts (n : Nat) (bs : List Branch) : (starts n bs).Pairwise (· < ·) := by
  induction bs generalizing n with
  | nil => exact .nil
  | cons b bs ih =>
    refine List.pairwise_cons.2 ⟨fun m hm => ?_, ih _⟩
    have hle := le_of_mem_starts hm
    have hpos := b.count_pos
    omega

end Branch

namespace Document

open Branch

mutual

/-- The part stands in the document with its nodes numbered from `n` on. -/
def Numbered (d : Document) : Nat → Branch → Prop
  | n, .element e parts =>
    d.kind? n = some (.element e) ∧ d.children n = starts (n + 1) parts ∧
      d.NumberedAll (n + 1) parts
  | n, .text data => d.kind? n = some (.text data) ∧ d.children n = []
  | n, .comment data => d.kind? n = some (.comment data) ∧ d.children n = []

/-- The parts stand in the document, numbered from `n` on one after the other. -/
def NumberedAll (d : Document) : Nat → List Branch → Prop
  | _, [] => True
  | n, b :: bs => d.Numbered n b ∧ d.NumberedAll (n + b.count) bs

end

variable {d d' : Document}

/-- Two lists of branches are numbered one after the other. -/
theorem numberedAll_append {n : Nat} {bs cs : List Branch} :
    d.NumberedAll n (bs ++ cs) ↔ d.NumberedAll n bs ∧ d.NumberedAll (n + countAll bs) cs := by
  induction bs generalizing n with
  | nil => simp [NumberedAll, countAll]
  | cons b bs ih => simp only [List.cons_append, NumberedAll, countAll, ih, and_assoc, Nat.add_assoc]

/-- Two documents have the same kinds and children at the numbers from `n` up to `m`. -/
def SameBetween (d d' : Document) (n m : Nat) : Prop :=
  ∀ i, n ≤ i → i < m → d'.kind? i = d.kind? i ∧ d'.children i = d.children i

/-- What is the same between two numbers is the same between closer ones. -/
theorem SameBetween.mono {n m n' m' : Nat} (h : SameBetween d d' n m) (hn : n ≤ n')
    (hm : m' ≤ m) : SameBetween d d' n' m' :=
  fun i hi hi' => h i (Nat.le_trans hn hi) (Nat.lt_of_lt_of_le hi' hm)

mutual

/-- **Only the nodes of a part matter** for how it is numbered. -/
theorem numbered_congr {n : Nat} :
    (b : Branch) → SameBetween d d' n (n + b.count) → d.Numbered n b → d'.Numbered n b
  | .element e parts, hs, ⟨hkind, hchildren, hparts⟩ => by
    have hpos := Branch.count_pos (.element e parts)
    obtain ⟨hkind', hchildren'⟩ := hs n (Nat.le_refl n) (by omega)
    refine ⟨hkind'.trans hkind, hchildren'.trans hchildren, numberedAll_congr parts ?_ hparts⟩
    exact hs.mono (Nat.le_succ n) (by simp only [count]; omega)
  | .text data, hs, ⟨hkind, hchildren⟩ => by
    obtain ⟨hkind', hchildren'⟩ := hs n (Nat.le_refl n) (Nat.lt_succ_self n)
    exact ⟨hkind'.trans hkind, hchildren'.trans hchildren⟩
  | .comment data, hs, ⟨hkind, hchildren⟩ => by
    obtain ⟨hkind', hchildren'⟩ := hs n (Nat.le_refl n) (Nat.lt_succ_self n)
    exact ⟨hkind'.trans hkind, hchildren'.trans hchildren⟩

/-- Numbered branches stay numbered where the document stays the same. -/
theorem numberedAll_congr {n : Nat} :
    (bs : List Branch) → SameBetween d d' n (n + countAll bs) → d.NumberedAll n bs →
      d'.NumberedAll n bs
  | [], _, _ => trivial
  | b :: bs, hs, ⟨hb, hbs⟩ => by
    simp only [countAll] at hs
    exact ⟨numbered_congr b (hs.mono (Nat.le_refl n) (by omega)) hb,
      numberedAll_congr bs (hs.mono (Nat.le_add_right n _) (by omega)) hbs⟩

end

mutual

/-- A numbered part is read at its node. -/
theorem Numbered.branch?_eq {n budget : Nat} :
    (b : Branch) → d.Numbered n b → b.count ≤ budget → d.branch? budget n = some b
  | .element e parts, ⟨hkind, hchildren, hparts⟩, hb => by
    simp only [count] at hb
    obtain ⟨budget, rfl⟩ : ∃ k, budget = k + 1 := ⟨budget - 1, by omega⟩
    rw [branch?, hkind, hchildren]
    simp only [NumberedAll.filterMap_branch? parts hparts (by omega : countAll parts ≤ budget)]
  | .text data, ⟨hkind, _⟩, hb => by
    obtain ⟨budget, rfl⟩ : ∃ k, budget = k + 1 := ⟨budget - 1, by simp only [count] at hb; omega⟩
    rw [branch?, hkind]
  | .comment data, ⟨hkind, _⟩, hb => by
    obtain ⟨budget, rfl⟩ : ∃ k, budget = k + 1 := ⟨budget - 1, by simp only [count] at hb; omega⟩
    rw [branch?, hkind]

/-- Numbered parts are read at the numbers at which they start. -/
theorem NumberedAll.filterMap_branch? {n budget : Nat} :
    (bs : List Branch) → d.NumberedAll n bs → countAll bs ≤ budget →
      (starts n bs).filterMap (d.branch? budget) = bs
  | [], _, _ => rfl
  | b :: bs, ⟨hb, hbs⟩, hle => by
    simp only [countAll] at hle
    rw [starts, List.filterMap_cons_some (Numbered.branch?_eq b hb (by omega)),
      NumberedAll.filterMap_branch? bs hbs (by omega)]

end

mutual

/-- The nodes of a numbered part in document order are its numbers in order. -/
theorem Numbered.cons_nodesBelow {n budget : Nat} :
    (b : Branch) → d.Numbered n b → b.count ≤ budget →
      n :: d.nodesBelow budget n = List.range' n b.count
  | .element e parts, ⟨_, hchildren, hparts⟩, hb => by
    simp only [count] at hb
    obtain ⟨budget, rfl⟩ : ∃ k, budget = k + 1 := ⟨budget - 1, by omega⟩
    rw [nodesBelow, hchildren, count, List.range'_succ,
      NumberedAll.flatMap_nodesBelow parts hparts (by omega)]
  | .text data, ⟨_, hchildren⟩, hb => by
    obtain ⟨budget, rfl⟩ : ∃ k, budget = k + 1 := ⟨budget - 1, by simp only [count] at hb; omega⟩
    rw [nodesBelow, hchildren]
    rfl
  | .comment data, ⟨_, hchildren⟩, hb => by
    obtain ⟨budget, rfl⟩ : ∃ k, budget = k + 1 := ⟨budget - 1, by simp only [count] at hb; omega⟩
    rw [nodesBelow, hchildren]
    rfl

/-- **Document order is the order of the numbers.** -/
theorem NumberedAll.flatMap_nodesBelow {n budget : Nat} :
    (bs : List Branch) → d.NumberedAll n bs → countAll bs ≤ budget →
      (starts n bs).flatMap (fun c => c :: d.nodesBelow budget c) = List.range' n (countAll bs)
  | [], _, _ => rfl
  | b :: bs, ⟨hb, hbs⟩, hle => by
    simp only [countAll] at hle
    rw [starts, List.flatMap_cons, Numbered.cons_nodesBelow b hb (by omega),
      NumberedAll.flatMap_nodesBelow bs hbs (by omega), countAll, ← List.range'_append_1]

end

mutual

/-- At each number of a numbered part stands a part. -/
theorem Numbered.exists_numbered {n m : Nat} :
    (b : Branch) → d.Numbered n b → n ≤ m → m < n + b.count → ∃ c, d.Numbered m c
  | .element e parts, h, hle, hlt => by
    by_cases hm : m = n
    · exact ⟨.element e parts, hm ▸ h⟩
    · simp only [count] at hlt
      exact NumberedAll.exists_numbered parts h.2.2 (by omega) (by omega)
  | .text data, h, hle, hlt => by
    simp only [count] at hlt
    obtain rfl : m = n := by omega
    exact ⟨.text data, h⟩
  | .comment data, h, hle, hlt => by
    simp only [count] at hlt
    obtain rfl : m = n := by omega
    exact ⟨.comment data, h⟩

/-- A number among those of some branches is that of a branch somewhere in them. -/
theorem NumberedAll.exists_numbered {n m : Nat} :
    (bs : List Branch) → d.NumberedAll n bs → n ≤ m → m < n + countAll bs →
      ∃ c, d.Numbered m c
  | [], _, hle, hlt => by
    simp only [countAll] at hlt
    omega
  | b :: bs, ⟨hb, hbs⟩, hle, hlt => by
    simp only [countAll] at hlt
    by_cases hm : m < n + b.count
    · exact Numbered.exists_numbered b hb hle hm
    · exact NumberedAll.exists_numbered bs hbs (by omega) (by omega)

end

/-- The children of the node of a numbered part start behind it, one after the other. -/
theorem Numbered.exists_children_eq_starts {n : Nat} {b : Branch} (h : d.Numbered n b) :
    ∃ bs, d.children n = starts (n + 1) bs := by
  cases b with
  | element e parts => exact ⟨parts, h.2.1⟩
  | text data => exact ⟨[], h.2⟩
  | comment data => exact ⟨[], h.2⟩

end Document

end SelectorFinder.Dom
