import Mathlib.Data.List.Induction
import Mathlib.Data.List.Nodup
import SelectorFinder.Dom.Element

/-!
# The Order of Attributes

What an attribute list holds after names have been set one after the other: each name once,
where it was set first, with the value that it was set to last. It does not matter how they
were set, and the list says all there is to say: put into an empty list in its order, its
pairs give the same list again.

## Main results

* `entries_ofList`: the entries of a list that holds pairs set one after the other.
* `get?_ofList`, `mem_settled_iff`: what a lookup finds is what was set last.
* `pairwise_idxOf_eraseDups`: names stand in the order in which they come first.
* `SetInTurn.insertionOrdered`: all of it, for every way to set pairs.
-/

namespace SelectorFinder.Dom.Attributes

/-- Pairs of name and value in which every name is kept where it comes first, with the value
that it has where it comes last. -/
def settled (pairs : List (String × String)) : List (String × String) :=
  (pairs.map Prod.fst).eraseDups.map fun name =>
    (name, (lookup name pairs.reverse).getD "")

/-- A last name is dropped where it repeats an earlier one. -/
theorem eraseDups_concat (names : List String) (name : String) :
    (names ++ [name]).eraseDups =
      if name ∈ names then names.eraseDups else names.eraseDups ++ [name] := by
  rw [List.eraseDups_append]
  split
  next h => simp [List.removeAll, h]
  next h => simp [List.removeAll, h, List.eraseDups_cons]

/-- No name comes twice when repeated ones are dropped. -/
theorem nodup_eraseDups (names : List String) : names.eraseDups.Nodup := by
  induction names using List.reverseRecOn with
  | nil => simp
  | append_singleton names name ih =>
    rw [eraseDups_concat]
    split
    next => exact ih
    next h =>
      refine List.nodup_append.2 ⟨ih, List.nodup_singleton name, ?_⟩
      rintro a ha b hb rfl
      obtain rfl := List.mem_singleton.1 hb
      exact h (List.mem_eraseDups.1 ha)

/-- Setting a name among entries whose names are all different. -/
theorem snd_exchangeIn_map {names : List String} (hn : names.Nodup) (valueOf : String → String)
    (name value : String) :
    (exchangeIn name value (names.map fun n => (n, valueOf n))).2 =
      (if name ∈ names then names else names ++ [name]).map fun n =>
        (n, if name = n then value else valueOf n) := by
  induction names with
  | nil => simp [exchangeIn]
  | cons n ns ih =>
    obtain ⟨hnot, hns⟩ := List.nodup_cons.1 hn
    by_cases h : n = name
    · subst h
      have hrest : ∀ m ∈ ns, (m, valueOf m) = (m, if n = m then value else valueOf m) := by
        intro m hm
        have hne : n ≠ m := fun he => hnot (he ▸ hm)
        rw [if_neg hne]
      simp only [List.map_cons, exchangeIn, if_true, List.mem_cons_self]
      rw [List.map_congr_left hrest]
    · have hmem : (name ∈ n :: ns) ↔ name ∈ ns := by simp [Ne.symm h]
      simp only [List.map_cons, exchangeIn, if_neg h, ih hns, hmem]
      by_cases hm : name ∈ ns <;> simp [hm, Ne.symm h]

/-- **Entries in order.** Setting pairs one after the other keeps every name at its first
place, with its last value. -/
theorem entries_ofList (pairs : List (String × String)) :
    (ofList pairs).entries = settled pairs := by
  induction pairs using List.reverseRecOn with
  | nil => rfl
  | append_singleton pairs pair ih =>
    obtain ⟨name, value⟩ := pair
    have hstep : (ofList (pairs ++ [(name, value)])).entries =
        (exchangeIn name value (ofList pairs).entries).2 := by
      rw [ofList, List.foldl_append]
      rfl
    have hvalue : ∀ n, (lookup n (pairs ++ [(name, value)]).reverse).getD "" =
        if name = n then value else (lookup n pairs.reverse).getD "" := by
      intro n
      rw [List.reverse_append, List.reverse_singleton, List.singleton_append, lookup]
      split <;> rfl
    rw [hstep, ih, settled, snd_exchangeIn_map (nodup_eraseDups _), settled]
    simp only [hvalue, List.map_append, List.map_singleton, eraseDups_concat, List.mem_eraseDups]

/-- The list that holds pairs set one after the other. -/
theorem ofList_eq (pairs : List (String × String)) : ofList pairs = ⟨settled pairs⟩ :=
  congrArg Attributes.mk (entries_ofList pairs)

/-! ### Lookups -/

variable {pairs entries : List (String × String)} {name value : String} {a : Attributes}

/-- A lookup finds the first entry of the name. -/
theorem lookup_eq_find? (name : String) (entries : List (String × String)) :
    lookup name entries = (entries.find? (·.1 = name)).map Prod.snd := by
  induction entries with
  | nil => rfl
  | cons e entries ih => by_cases h : e.1 = name <;> simp [lookup, h, ih]

/-- **The pair that sets a name last**: no pair behind it has that name. -/
def LastSet (pairs : List (String × String)) (name value : String) : Prop :=
  ∃ before after, pairs = before ++ (name, value) :: after ∧ name ∉ after.map Prod.fst

/-- What is found from the end is what was set last. -/
theorem lookup_reverse_eq_some_iff :
    lookup name pairs.reverse = some value ↔ LastSet pairs name value := by
  rw [lookup_eq_find?]
  constructor
  · intro h
    obtain ⟨⟨n, v⟩, hfind, rfl⟩ := Option.map_eq_some_iff.1 h
    obtain ⟨hn, after, before, hsplit, hafter⟩ := List.find?_eq_some_iff_append.1 hfind
    obtain rfl : n = name := by simpa using hn
    refine ⟨before.reverse, after.reverse, by simpa using congrArg List.reverse hsplit, ?_⟩
    intro hmem
    obtain ⟨e, he, hename⟩ := List.mem_map.1 hmem
    simpa [hename] using hafter e (List.mem_reverse.1 he)
  · rintro ⟨before, after, rfl, hafter⟩
    refine Option.map_eq_some_iff.2 ⟨(name, value), ?_, rfl⟩
    refine List.find?_eq_some_iff_append.2 ⟨by simp, after.reverse, before.reverse, by simp, ?_⟩
    intro e he
    have hne : e.1 ≠ name := fun h =>
      hafter (List.mem_map.2 ⟨e, List.mem_reverse.1 he, h⟩)
    simpa using hne

/-- A name that was set last is among the names. -/
theorem LastSet.mem (h : LastSet pairs name value) : name ∈ pairs.map Prod.fst := by
  obtain ⟨before, after, rfl, -⟩ := h
  simp

/-- A name that was set was set to something last. -/
theorem exists_lastSet (h : name ∈ pairs.map Prod.fst) : ∃ value, LastSet pairs name value := by
  obtain ⟨e, he, rfl⟩ := List.mem_map.1 h
  have hfound : (pairs.reverse.find? (·.1 = e.1)).isSome :=
    List.find?_isSome.2 ⟨e, List.mem_reverse.2 he, by simp⟩
  obtain ⟨last, hlast⟩ := Option.isSome_iff_exists.1 hfound
  refine ⟨last.2, lookup_reverse_eq_some_iff.1 ?_⟩
  rw [lookup_eq_find?, hlast]
  rfl

/-- **The entries are the pairs that set a name last.** -/
theorem mem_settled_iff : (name, value) ∈ settled pairs ↔ LastSet pairs name value := by
  constructor
  · intro h
    obtain ⟨n, hn, he⟩ := List.mem_map.1 h
    obtain ⟨rfl, rfl⟩ := Prod.mk.inj he
    obtain ⟨v, hv⟩ := exists_lastSet (List.mem_eraseDups.1 hn)
    rwa [lookup_reverse_eq_some_iff.2 hv]
  · intro h
    refine List.mem_map.2 ⟨name, List.mem_eraseDups.2 h.mem, ?_⟩
    rw [lookup_reverse_eq_some_iff.2 h]
    rfl

/-! ### One pair after the other -/

/-- Setting one more pair. -/
theorem ofList_concat (pairs : List (String × String)) (name value : String) :
    ofList (pairs ++ [(name, value)]) = (ofList pairs).insert name value := by
  rw [ofList, List.foldl_append]
  rfl

/-- **A lookup finds what was set last.** -/
theorem get?_ofList (pairs : List (String × String)) (name : String) :
    (ofList pairs).get? name = lookup name pairs.reverse := by
  induction pairs using List.reverseRecOn with
  | nil => rfl
  | append_singleton pairs pair ih =>
    obtain ⟨n, v⟩ := pair
    rw [ofList_concat, get?_insert, List.reverse_append, List.reverse_singleton,
      List.singleton_append, lookup, ih]
    rcases eq_or_ne name n with rfl | hne
    · simp
    · simp [hne, hne.symm]

/-- A name that is not there is entered at the end. -/
theorem snd_exchangeIn_of_notMem (h : name ∉ entries.map Prod.fst) :
    (exchangeIn name value entries).2 = entries ++ [(name, value)] := by
  induction entries with
  | nil => rfl
  | cons e entries ih =>
    obtain ⟨hne, hrest⟩ := not_or.1 (mt List.mem_cons.2 h)
    rw [exchangeIn, if_neg (Ne.symm hne)]
    exact congrArg (e :: ·) (ih hrest)

/-- **Pairs with different names** are the entries of the list that they make. -/
theorem ofList_of_nodup (h : (entries.map Prod.fst).Nodup) : ofList entries = ⟨entries⟩ := by
  induction entries using List.reverseRecOn with
  | nil => rfl
  | append_singleton entries entry ih =>
    obtain ⟨name, value⟩ := entry
    rw [List.map_append, List.nodup_append] at h
    obtain ⟨hentries, -, hdisjoint⟩ := h
    have hnot : name ∉ entries.map Prod.fst := fun hmem =>
      hdisjoint name hmem name (by simp) rfl
    rw [ofList_concat, ih hentries]
    exact congrArg Attributes.mk (snd_exchangeIn_of_notMem hnot)

/-! ### First places -/

/-- **Names stand in the order in which they come first.** -/
theorem pairwise_idxOf_eraseDups (names : List String) :
    names.eraseDups.Pairwise fun m n => names.idxOf m < names.idxOf n := by
  induction names using List.reverseRecOn with
  | nil => exact .nil
  | append_singleton names name ih =>
    -- a name that was there comes first where it did before
    have hold : ∀ n ∈ names.eraseDups, (names ++ [name]).idxOf n = names.idxOf n := fun n hn =>
      List.idxOf_append_of_mem (List.mem_eraseDups.1 hn)
    have hpair : names.eraseDups.Pairwise fun m n =>
        (names ++ [name]).idxOf m < (names ++ [name]).idxOf n :=
      ih.imp_of_mem fun hm hn hlt => by rwa [hold _ hm, hold _ hn]
    rw [eraseDups_concat]
    split
    next => exact hpair
    next h =>
      refine List.pairwise_append.2 ⟨hpair, List.pairwise_singleton _ _, fun m hm n hn => ?_⟩
      obtain rfl := List.mem_singleton.1 hn
      rw [hold m hm, List.idxOf_append_of_notMem h]
      have := List.idxOf_lt_length_of_mem (List.mem_eraseDups.1 hm)
      omega

/-- The names of the entries are those of the pairs, without repeated ones. -/
theorem map_fst_settled (pairs : List (String × String)) :
    (settled pairs).map Prod.fst = (pairs.map Prod.fst).eraseDups := by
  rw [settled, List.map_map]
  exact List.map_id _

/-! ### All ways to set pairs -/

/-- **Lists made by setting pairs in turn**: one by one, as attributes of an element, or all
of them at once, and then more of them in whichever way. -/
inductive SetInTurn : List (String × String) → Attributes → Prop
  | none : SetInTurn [] .empty
  | together (pairs : List (String × String)) : SetInTurn pairs (.ofList pairs)
  | single {pairs : List (String × String)} {a : Attributes} (h : SetInTurn pairs a)
      (name value : String) : SetInTurn (pairs ++ [(name, value)]) (a.exchange name value).2
  | onElement {pairs : List (String × String)} {e : Element} (h : SetInTurn pairs e.attributes)
      (name value : String) :
      SetInTurn (pairs ++ [(name, value)]) (e.withAttribute name value).attributes

/-- All ways lead to the same list. -/
theorem SetInTurn.eq_ofList (h : SetInTurn pairs a) : a = .ofList pairs := by
  induction h with
  | none => rfl
  | together pairs => rfl
  | single _ name value ih =>
    rw [ofList_concat, ← ih]
    rfl
  | onElement _ name value ih =>
    rw [ofList_concat, ← ih]
    rfl

/-- **An insertion-ordered map.** However pairs have been set one after the other, the list has
each name once, the names in the order in which they were set first, and holds and finds for
each the value that it was set to last. Setting a name hands back what was found under it just
before; afterwards the new value is found there, and under any other name what was found
before. The pairs of the list, set in its order, make an equal list. -/
theorem SetInTurn.insertionOrdered (h : SetInTurn pairs a) :
    (a.toList.map Prod.fst).Nodup ∧
    a.toList.Pairwise (fun e e' =>
      (pairs.map Prod.fst).idxOf e.1 < (pairs.map Prod.fst).idxOf e'.1) ∧
    (∀ name value, (name, value) ∈ a.toList ↔ LastSet pairs name value) ∧
    (∀ name value, a.get? name = some value ↔ LastSet pairs name value) ∧
    (∀ name value, (a.exchange name value).1 = a.get? name ∧
      (a.exchange name value).2.get? name = some value ∧
      ∀ other, other ≠ name → (a.exchange name value).2.get? other = a.get? other) ∧
    ofList a.toList = a := by
  obtain rfl := h.eq_ofList
  have hentries : (ofList pairs).toList = settled pairs := entries_ofList pairs
  have hnodup : ((settled pairs).map Prod.fst).Nodup := by
    rw [map_fst_settled]
    exact nodup_eraseDups _
  refine ⟨hentries ▸ hnodup, ?order, fun name value => ?held, fun name value => ?found,
    fun name value => ?step, ?again⟩
  case order =>
    have hnames := pairwise_idxOf_eraseDups (pairs.map Prod.fst)
    rw [← map_fst_settled, List.pairwise_map] at hnames
    rwa [hentries]
  case held => rw [hentries, mem_settled_iff]
  case found => rw [get?_ofList, lookup_reverse_eq_some_iff]
  case step =>
    have hget : ∀ key, ((ofList pairs).exchange name value).2.get? key =
        if key = name then some value else (ofList pairs).get? key :=
      get?_insert (ofList pairs) name value
    refine ⟨fst_exchange _ name value, ?_, fun other hother => ?_⟩
    · rw [hget, if_pos rfl]
    · rw [hget, if_neg hother]
  case again => rw [hentries, ofList_of_nodup hnodup, ofList_eq]

/-- Two attributes that were read together; then the first is set again, and on the element a
new one is set and the second again. -/
def markedInput : Element :=
  (Element.mk "input" ((ofList [("data-b", "1"), ("type", "text")]).exchange "data-b" "2").2)
    |>.withAttribute "id" "x"
    |>.withAttribute "type" "radio"

/-- The pairs in the order in which they were set. -/
def markedPairs : List (String × String) :=
  [("data-b", "1"), ("type", "text"), ("data-b", "2"), ("id", "x"), ("type", "radio")]

/-- Each of the three names stands where it was set first, with its last value. -/
theorem SetInTurn.insertionOrdered_markedInput :
    SetInTurn markedPairs markedInput.attributes ∧
      markedInput.attributes.toList = [("data-b", "2"), ("type", "radio"), ("id", "x")] ∧
      (markedInput.attributes.toList.map Prod.fst).Nodup ∧
      LastSet markedPairs "type" "radio" ∧
      (markedInput.attributes.exchange "type" "text").1 = some "radio" ∧
      ofList markedInput.attributes.toList = markedInput.attributes := by
  have hread := SetInTurn.together [("data-b", "1"), ("type", "text")]
  have helement : SetInTurn _ (Element.mk "input" _).attributes := hread.single "data-b" "2"
  have hset : SetInTurn markedPairs markedInput.attributes :=
    (helement.onElement "id" "x").onElement "type" "radio"
  have hlist : markedInput.attributes.toList =
      [("data-b", "2"), ("type", "radio"), ("id", "x")] := by decide
  obtain ⟨hnodup, -, hheld, hfound, hstep, hagain⟩ := hset.insertionOrdered
  have hlast : LastSet markedPairs "type" "radio" := (hheld "type" "radio").1 (by simp [hlist])
  exact ⟨hset, hlist, hnodup, hlast,
    (hstep "type" "text").1.trans ((hfound "type" "radio").2 hlast), hagain⟩

end SelectorFinder.Dom.Attributes
