/-!
# Summaries

What is shown of the element that a candidate is anchored under.
-/

namespace SelectorFinder.Inspection

/-- The parent of an inspected element, in short: `classes` is missing where there are none,
and `attributes` holds the notable ones as they are written in a tag. -/
structure Summary where
  tag : String
  id : Option String
  classes : Option (List String)
  attributes : List String
  deriving DecidableEq, Repr

namespace Summary

/-- Class names as they are written in a selector. -/
def renderClasses (classes : List String) : String :=
  "." ++ String.intercalate "." classes

/-- The shortest selector that points at the element: its classes, else its id, else its
tag. -/
def selector (s : Summary) : String :=
  match s.classes, s.id with
  | some (c :: cs), _ => renderClasses (c :: cs)
  | _, some id => "#" ++ id
  | _, none => s.tag

/-- The tag, the id and the classes, with blanks between. -/
def toText (s : Summary) : String :=
  let id := match s.id with
    | some id => " #" ++ id
    | none => ""
  let classes := match s.classes with
    | some classes => " " ++ renderClasses classes
    | none => ""
  s.tag ++ id ++ classes

end Summary

end SelectorFinder.Inspection
