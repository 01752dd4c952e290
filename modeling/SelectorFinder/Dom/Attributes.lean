/-!
# Attribute Lists

An element's attributes as an insertion-ordered map: names are compared exactly, a name set
again keeps its place and takes the new value. `Attributes.get?` is the view through which
the operations are described.

## Main results

* `Attributes.fst_exchange`: setting a name hands back the value it had.
* `Attributes.get?_insert`: what a lookup finds after an insertion.
-/

namespace SelectorFinder.Dom

/-- An element's attributes, in the order in which their names were first set. -/
structure Attributes where
  entries : List (String × String)
  deriving DecidableEq, Repr

namespace Attributes

/-- The first value entered under a name. -/
def lookup (name : String) : List (String × String) → Option String
  | [] => none
  | e :: es => if e.1 = name then some e.2 else lookup name es

/-- Sets a name in a list of entries: the first entry of that name takes the value, and a
name that is not there is entered at the end. Also gives the value that was replaced. -/
def exchangeIn (name value : String) :
    List (String × String) → Option String × List (String × String)
  | [] => (none, [(name, value)])
  | e :: es =>
    if e.1 = name then (some e.2, (name, value) :: es)
    else
      let r := exchangeIn name value es
      (r.1, e :: r.2)

/-- No attributes. -/
def empty : Attributes := ⟨[]⟩

/-- The list without attributes. -/
instance : Inhabited Attributes := ⟨empty⟩

/-- The value of the attribute of that name. -/
def get? (a : Attributes) (name : String) : Option String :=
  lookup name a.entries

/-- Sets an attribute and gives the value it had before. -/
def exchange (a : Attributes) (name value : String) : Option String × Attributes :=
  let r := exchangeIn name value a.entries
  (r.1, ⟨r.2⟩)

/-- Sets an attribute. -/
def insert (a : Attributes) (name value : String) : Attributes :=
  (a.exchange name value).2

/-- The list that results from setting the pairs one after the other. -/
def ofList (pairs : List (String × String)) : Attributes :=
  pairs.foldl (fun a p => a.insert p.1 p.2) empty

/-- The pairs of name and value, in order. -/
def toList (a : Attributes) : List (String × String) :=
  a.entries

/-- Whether there is no attribute at all. -/
def isEmpty (a : Attributes) : Bool :=
  a.entries.isEmpty

/-- Nothing is found in the empty list. -/
@[simp] theorem get?_empty (name : String) : empty.get? name = none := rfl

/-- Setting a name hands back what was found under it before. -/
theorem fst_exchangeIn (name value : String) (es : List (String × String)) :
    (exchangeIn name value es).1 = lookup name es := by
  induction es with
  | nil => rfl
  | cons e es ih => by_cases h : e.1 = name <;> simp [exchangeIn, lookup, h, ih]

/-- Under the name that was set the new value is found, and under any other what was found before.
-/
theorem lookup_exchangeIn (name value key : String) (es : List (String × String)) :
    lookup key (exchangeIn name value es).2 = if key = name then some value else lookup key es := by
  induction es with
  | nil => by_cases h : name = key <;> simp [exchangeIn, lookup, h, eq_comm]
  | cons e es ih =>
    by_cases h : e.1 = name
    · subst h
      by_cases hk : key = e.1
      · simp [exchangeIn, lookup, hk]
      · simp [exchangeIn, lookup, hk, Ne.symm hk]
    · by_cases hk : e.1 = key
      · subst hk
        simp [exchangeIn, lookup, h]
      · simp [exchangeIn, lookup, h, hk, ih]

/-- Setting a name hands back the value that a lookup found just before. -/
theorem fst_exchange (a : Attributes) (name value : String) :
    (a.exchange name value).1 = a.get? name :=
  fst_exchangeIn name value a.entries

/-- After setting a name, that name has the new value and every other name is as it was. -/
theorem get?_insert (a : Attributes) (name value key : String) :
    (a.insert name value).get? key = if key = name then some value else a.get? key :=
  lookup_exchangeIn name value key a.entries

end Attributes

end SelectorFinder.Dom
