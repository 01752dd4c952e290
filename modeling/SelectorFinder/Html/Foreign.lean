import SelectorFinder.Html.Builder

/-!
# Drawings and Formulas

Elements of SVG and MathML inside a page. Their names are written in mixed case, their
attributes may carry a prefix, and most HTML tags end them.
-/

namespace SelectorFinder.Html.Build

open Builder SelectorFinder.Text

/-- Words in mixed case, by their lower case. -/
def caseTable (words : List String) : List (String × String) :=
  words.map fun w => (lower w, w)

/-- The names of SVG elements that are not in lower case. -/
def svgTagNames : List (String × String) := caseTable
  ["altGlyph", "altGlyphDef", "altGlyphItem", "animateColor", "animateMotion",
   "animateTransform", "clipPath", "feBlend", "feColorMatrix", "feComponentTransfer",
   "feComposite", "feConvolveMatrix", "feDiffuseLighting", "feDisplacementMap",
   "feDistantLight", "feDropShadow", "feFlood", "feFuncA", "feFuncB", "feFuncG", "feFuncR",
   "feGaussianBlur", "feImage", "feMerge", "feMergeNode", "feMorphology", "feOffset",
   "fePointLight", "feSpecularLighting", "feSpotLight", "feTile", "feTurbulence",
   "foreignObject", "glyphRef", "linearGradient", "radialGradient", "textPath"]

/-- The names of SVG attributes that are not in lower case. -/
def svgAttributeNames : List (String × String) := caseTable
  ["attributeName", "attributeType", "baseFrequency", "baseProfile", "calcMode",
   "clipPathUnits", "diffuseConstant", "edgeMode", "filterUnits", "glyphRef",
   "gradientTransform", "gradientUnits", "kernelMatrix", "kernelUnitLength", "keyPoints",
   "keySplines", "keyTimes", "lengthAdjust", "limitingConeAngle", "markerHeight",
   "markerUnits", "markerWidth", "maskContentUnits", "maskUnits", "numOctaves", "pathLength",
   "patternContentUnits", "patternTransform", "patternUnits", "pointsAtX", "pointsAtY",
   "pointsAtZ", "preserveAlpha", "preserveAspectRatio", "primitiveUnits", "refX", "refY",
   "repeatCount", "repeatDur", "requiredExtensions", "requiredFeatures", "specularConstant",
   "specularExponent", "spreadMethod", "startOffset", "stdDeviation", "stitchTiles",
   "surfaceScale", "systemLanguage", "tableValues", "targetX", "targetY", "textLength",
   "viewBox", "viewTarget", "xChannelSelector", "yChannelSelector", "zoomAndPan"]

/-- The names of MathML attributes that are not in lower case. -/
def mathMlAttributeNames : List (String × String) := caseTable ["definitionURL"]

/-- Attributes with a prefix, and their names without it. -/
def prefixedNames : List (String × String) :=
  [("xlink:actuate", "actuate"), ("xlink:arcrole", "arcrole"), ("xlink:href", "href"),
   ("xlink:role", "role"), ("xlink:show", "show"), ("xlink:title", "title"),
   ("xlink:type", "type"), ("xml:base", "base"), ("xml:lang", "lang"),
   ("xml:space", "space"), ("xmlns:xlink", "xlink")]

/-- The name in a table of names, or else the name itself. -/
def adjusted (table : List (String × String)) (name : String) : String :=
  (table.lookup name).getD name

/-- The local name of an attribute of an element in a vocabulary. -/
def attributeName (v : Vocabulary) (name : String) : String :=
  let cased := match v with
    | .svg => adjusted svgAttributeNames name
    | .mathMl => adjusted mathMlAttributeNames name
    | .html => name
  adjusted prefixedNames cased

/-- The name of an element in a vocabulary. -/
def elementName (v : Vocabulary) (name : String) : ElementName :=
  ⟨v, if v = .svg then adjusted svgTagNames name else name⟩

/-- Inserts the element of a tag in a vocabulary; it stays open unless a slash ends it. -/
def insertForeign (v : Vocabulary) (tag : Tag) : Build Unit := do
  let attributes := tag.attributes.map fun (name, value) => (attributeName v name, value)
  let _ ← openElement (elementName v tag.name) attributes
  if tag.selfClosing then pop

/-- Whether an element of MathML holds HTML, by what it says of its encoding. -/
def holdsHtml (b : Builder) (n : Nat) : Bool :=
  (b.draft.attributes n).any fun (name, value) =>
    name == "encoding" && (sameName value "text/html" || sameName value "application/xhtml+xml")

/-- Whether the rules for other vocabularies decide on an event: the innermost element is not
of HTML, and the event is nothing for which it is open to HTML. -/
def isForeign (b : Builder) (e : Event) : Bool :=
  match b.current?, b.current?.bind b.name? with
  | some n, some name =>
    let isChar := match e with
      | .char _ => true
      | _ => false
    let startName? := match e with
      | .startTag tag => some tag.name
      | _ => none
    if name.vocabulary = .html || e = .endOfPage then false
    else if isTextPoint name &&
        (isChar || startName?.any fun s => s != "mglyph" && s != "malignmark") then false
    else if isHtmlPoint name && (isChar || startName?.isSome) then false
    else if name = ⟨.mathMl, "annotation-xml"⟩ then
      if startName? = some "svg" then false
      else !((isChar || startName?.isSome) && holdsHtml b n)
    else true
  | _, _ => false

/-- The start tags of HTML that end a drawing or a formula. -/
def breakoutNames : List String :=
  ["b", "big", "blockquote", "body", "br", "center", "code", "dd", "div", "dl", "dt", "em",
   "embed", "h1", "h2", "h3", "h4", "h5", "h6", "head", "hr", "i", "img", "li", "listing",
   "menu", "meta", "nobr", "ol", "p", "pre", "ruby", "s", "small", "span", "strong",
   "strike", "sub", "sup", "table", "tt", "u", "ul", "var"]

/-- Whether a start tag ends a drawing or a formula. -/
def breaksOut (tag : Tag) : Bool :=
  breakoutNames.contains tag.name ||
    (tag.name == "font" && tag.attributes.any fun a => ["color", "face", "size"].contains a.1)

/-- Closes elements up to one of HTML or one that is open to it, and lets the rules of the
mode decide. -/
def breakOut : Build Next := do
  popTo fun b n => match b.name? n with
    | some name => name.vocabulary == .html || isTextPoint name || isHtmlPoint name
    | none => true
  return .by (← get).mode

/-- The end tag of an element in another vocabulary: it closes the innermost element of that
name, up to case, if it comes to it before it comes to an element of HTML; from there on
the rules of the mode decide. -/
def closeForeign (name : String) (isCurrent : Bool) : List Nat → Build Next
  | [] | [_] => return .done
  | n :: outer => do
    match (← get).name? n with
    | some node =>
      if !isCurrent && node.vocabulary = .html then return .by (← get).mode
      else if sameName node.localName name then
        popTo fun _ m => m == n
        pop
        return .done
      else closeForeign name false outer
    | none => return .done

/-- The rules inside of a drawing or a formula. -/
def foreignRules (e : Event) : Build Next := do
  match e with
  | .char c =>
    if c = '\x00' then insertChar '\uFFFD'
    else
      insertChar c
      unless isSpace c || c = '\r' do noFrameset
    return .done
  | .comment data =>
    insertComment data
    return .done
  | .startTag tag =>
    if breaksOut tag then breakOut
    else
      let b ← get
      let vocabulary := ((b.current?.bind b.name?).map ElementName.vocabulary).getD .html
      insertForeign vocabulary tag
      return .done
  | .endTag name =>
    if name == "br" || name == "p" then breakOut
    else closeForeign name true (← get).stack
  | _ => return .done

end SelectorFinder.Html.Build
