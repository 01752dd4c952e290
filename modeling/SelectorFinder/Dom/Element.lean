import SelectorFinder.Dom.Attributes
import SelectorFinder.Text.Ascii
import SelectorFinder.Text.Blank

/-!
# Elements

An element is a tag name and an attribute list; everything a selector can see of it is read
off these two.
-/

namespace SelectorFinder.Dom

open SelectorFinder.Text

/-- A tag name, in the case in which it was made, with its attributes. -/
structure Element where
  tagName : String
  attributes : Attributes
  deriving DecidableEq, Repr, Inhabited

namespace Element

/-- An element without attributes. -/
def bare (tagName : String) : Element :=
  ⟨tagName, .empty⟩

/-- The element with an attribute set, as `Attributes.insert` sets it. -/
def withAttribute (e : Element) (name value : String) : Element :=
  { e with attributes := e.attributes.insert name value }

/-- Elements that host no generated content: those without an end tag, and those whose
rendering comes from outside the page. -/
def voidLikeTags : List String :=
  ["area", "base", "br", "col", "embed", "hr", "img", "input", "link", "meta", "param",
   "source", "track", "wbr", "audio", "canvas", "iframe", "object", "video"]

/-- The form controls that carry state of the user. -/
def formControlTags : List String :=
  ["input", "select", "textarea", "button"]

/-- The tag name in lower case, as selectors write it. -/
def localName (e : Element) : String :=
  lower e.tagName

/-- Whether the tag name is the given one, up to case. -/
def hasTag (e : Element) (tag : String) : Bool :=
  sameName e.tagName tag

/-- The `id` attribute; an empty one counts as missing. -/
def id? (e : Element) : Option String :=
  (e.attributes.get? "id").filter (· ≠ "")

/-- The words of the `class` attribute, in order. -/
def classes (e : Element) : List String :=
  match e.attributes.get? "class" with
  | some value => wordsOf value
  | none => []

/-- A link. -/
def isAnchor (e : Element) : Bool :=
  e.hasTag "a"

/-- An `input` element. -/
def isInput (e : Element) : Bool :=
  e.hasTag "input"

/-- An `input`, `select`, `textarea` or `button` element. -/
def isFormControl (e : Element) : Bool :=
  formControlTags.any e.hasTag

/-- An `input` element of type `checkbox` or `radio`. -/
def isCheckableInput (e : Element) : Bool :=
  e.isInput &&
    match e.attributes.get? "type" with
    | some type => sameName type "checkbox" || sameName type "radio"
    | none => false

/-- An element without `::before` and `::after`. -/
def isVoidLike (e : Element) : Bool :=
  voidLikeTags.any e.hasTag

/-- An empty `id` attribute is no id. -/
theorem id?_ne_empty {e : Element} {name : String} (h : e.id? = some name) : name ≠ "" := by
  simpa using (Option.filter_eq_some_iff.1 h).2

end Element

end SelectorFinder.Dom
