import SelectorFinder.CommandLine.ElementPath
import SelectorFinder.CommandLine.Options
import SelectorFinder.Html.Load
import SelectorFinder.Report.Json

/-!
# Running the Program

What the program prints for its arguments, given what becomes of opening the file that they
name. Nothing is printed before everything went well: a failure leaves the output empty.
-/

namespace SelectorFinder.CommandLine

open SelectorFinder.Dom SelectorFinder.Html SelectorFinder.Inspection SelectorFinder.Report
open SelectorFinder.Selector

/-- Why there is nothing to print. -/
inductive Failure where
  | noInput
  | notLoaded (path : String) (cause : LoadError)
  | noElementWithId (id : String)
  | badSegment (path : String) (fault : SegmentError)
  | noElementAt (path : String)
  | noElements
  deriving DecidableEq, Repr

namespace Failure

/-- What is said of a failure. -/
def message : Failure → String
  | noInput => "no input given: pass a FILE or --html"
  | notLoaded path _ => "failed to load " ++ path
  | noElementWithId id => "no element with id '" ++ id ++ "'"
  | badSegment path fault => "invalid path segment '" ++ fault.segment ++ "' in '" ++ path ++ "'"
  | noElementAt path => "no element at path '" ++ path ++ "'"
  | noElements => "document has no elements"

/-- What lies behind a failure, the nearest cause first. -/
def causes : Failure → List String
  | notLoaded _ cause => [cause.message, cause.reason]
  | badSegment _ fault => [fault.cause.message]
  | _ => []

/-- A text with blanks put behind each line feed. -/
def hanging (indent : Nat) (text : String) : String :=
  String.join (text.toList.map fun c =>
    if c = '\n' then "\n" ++ "".pushn ' ' indent else c.toString)

/-- Causes with their numbers. -/
def numberedCauses : Nat → List String → String
  | _, [] => ""
  | n, cause :: more =>
    "\n" ++ padLeft 5 (toString n) ++ ": " ++ hanging 7 cause ++ numberedCauses (n + 1) more

/-- A failure with what lies behind it; several causes are numbered. -/
def toText (f : Failure) : String :=
  let behind := match f.causes with
    | [] => ""
    | [cause] => "\n\nCaused by:\n    " ++ hanging 4 cause
    | causes => "\n\nCaused by:" ++ numberedCauses 0 causes
  "Error: " ++ f.message ++ behind ++ "\n"

end Failure

/-- What a run leaves behind. -/
structure Outcome where
  code : Nat
  output : String
  errors : String
  deriving DecidableEq, Repr

/-- The name and the version of the program. -/
def versionText : String :=
  "pinpoint 0.1.0\n"

/-- How the program is used. -/
def helpText : String :=
"Pinpoint - CSS selector suggestions for HTML elements

Usage: pinpoint [OPTIONS] [FILE]

Arguments:
  [FILE]  Path to HTML file

Options:
      --html <HTML>             Parse HTML string directly instead of a file
      --id <ID>                 Inspect the first element with this id
      --path <0/1/2>            Inspect the element at this slash-separated index path
      --json                    Print candidates as JSON
      --dedupe                  Drop candidates whose selector repeats an earlier one
      --no-color                Disable coloured output
      --specificity <SELECTOR>  Print the specificity of a selector and exit
  -h, --help                    Print help
  -V, --version                 Print version

EXAMPLES:
    # Every element under <body>
    pinpoint page.html

    # One element by id, as JSON
    pinpoint page.html --id submit --json

    # Element by element-child indices from <html> (1 = body after head)
    pinpoint --html '<ul><li>a</li><li>b</li></ul>' --path 1/0/1

    # Drop candidates that repeat an earlier selector
    pinpoint page.html --id nav --dedupe

    # Score a selector without loading a document
    pinpoint --specificity '#nav .item:hover'

    # Debug logging
    RUST_LOG=pinpoint_selector=trace pinpoint page.html --id nav
"

/-- The document that the options name. -/
def load (openFile : String → Opened) (o : Options) : Except Failure Document :=
  match o.value? .html, o.file with
  | some html, _ => .ok (documentOfText html)
  | none, some path => (loadFile path (openFile path)).mapError (.notLoaded path)
  | none, none => .error .noInput

/-- The elements that the options name: the one with the id, the one at the path, or the
boundary with all elements below it. -/
def targets (o : Options) (d : Document) (boundary : Option NodeId) :
    Except Failure (List NodeId) :=
  match o.value? .id, o.value? .path, boundary with
  | some id, _, _ =>
    match d.findById? id with
    | some n => .ok [n]
    | none => .error (.noElementWithId id)
  | none, some path, _ =>
    match readPath path with
    | .error fault => .error (.badSegment path fault)
    | .ok indices =>
      match d.elementAt? indices with
      | some n => .ok [n]
      | none => .error (.noElementAt path)
  | none, none, some n => .ok (n :: d.descendantElements n)
  | none, none, none => .error .noElements

/-- The painter that the options choose. -/
def painterOf (o : Options) : Painter :=
  ⟨!o.has .noColor && !o.has .json⟩

/-- A JSON value on lines of its own. -/
def jsonText (v : Json) : String :=
  v.render 0 ++ "\n"

/-- The weight of a selector. -/
def weightText (o : Options) (selector : String) : String :=
  let w := specificity selector
  if o.has .json then jsonText (.ofWeight w) else (painterOf o).weight w ++ "\n"

/-- The listings of the elements that the options name. -/
def listingsText (openFile : String → Opened) (o : Options) : Except Failure String := do
  let d ← load openFile o
  let inspector := Inspector.ofDocument d ⟨o.has .dedupe⟩
  let listings := (← targets o d inspector.boundary).map (Listing.ofNode inspector)
  if o.has .json then return jsonText (.array (listings.map .ofListing))
  else return String.join (listings.map (Listing.render (painterOf o)))

/-- What the options ask to be printed. -/
def optionsText (openFile : String → Opened) (o : Options) : Except Failure String :=
  match o.value? .specificity with
  | some selector => .ok (weightText o selector)
  | none => listingsText openFile o

/-- The file that has to be opened for some arguments. -/
def fileNeeded? (arguments : List String) : Option String :=
  match Request.ofArguments arguments with
  | .ok (.run o) =>
    if (o.value? .specificity).isSome || (o.value? .html).isSome then none else o.file
  | _ => none

/-- What the program does with its arguments. -/
def run (openFile : String → Opened) (arguments : List String) : Outcome :=
  match Request.ofArguments arguments with
  | .error e =>
    ⟨2, "", "error: " ++ e.message ++ "\n\nFor more information, try '--help'.\n"⟩
  | .ok .help => ⟨0, helpText, ""⟩
  | .ok .version => ⟨0, versionText, ""⟩
  | .ok (.run o) =>
    match optionsText openFile o with
    | .ok text => ⟨0, text, ""⟩
    | .error f => ⟨1, "", f.toText⟩

end SelectorFinder.CommandLine
