import SelectorFinder.Html.Page
import SelectorFinder.Text.Utf8

/-!
# Loading Pages

A document is made of a text, of bytes that come in blocks, or of a file. A text is always a
page; bytes may fail to come, and a file may fail to open. Bytes are read a limited number at
a time, and what each read brings is handed to the page as pieces of text of its own.

## Main results

* `Source.flatten_pieces`: however the bytes come, the pieces put together are what they
  write.
-/

namespace SelectorFinder.Html

open SelectorFinder.Dom SelectorFinder.Text

/-- Why a page could not be loaded; `reason` is what the system says. -/
inductive LoadError where
  /-- The file could not be opened. -/
  | unopened (path reason : String)
  /-- The bytes stopped with a failure. -/
  | interrupted (reason : String)
  deriving DecidableEq, Repr

namespace LoadError

/-- What is said of the failure. -/
def message : LoadError → String
  | unopened path _ => "failed to read '" ++ path ++ "'"
  | interrupted _ => "failed to parse HTML input"

/-- What lies behind it. -/
def reason : LoadError → String
  | unopened _ reason => reason
  | interrupted reason => reason

end LoadError

/-- The document of a page whose text comes in the given pieces. -/
def documentOfPieces (pieces : List (List Char)) : Document :=
  Content.toDocument (pageOf pieces)

/-- The document of a page with the given text, which is one piece. -/
def documentOfText (text : String) : Document :=
  documentOfPieces [text.toList]

/-- How many bytes are read at a time, at most. -/
def readLimit : Nat := 4096

/-- The reads that a block of bytes takes. -/
def reads (block : List UInt8) : List (List UInt8) :=
  if block.length ≤ readLimit then [block]
  else block.take readLimit :: reads (block.drop readLimit)
termination_by block.length
decreasing_by
  have : 0 < readLimit := by decide
  rw [List.length_drop]
  omega

/-- Reads put together are the block that was read. -/
theorem flatten_reads (block : List UInt8) : (reads block).flatten = block := by
  fun_induction reads block with
  | case1 => simp
  | case2 _ _ ih => rw [List.flatten_cons, ih, List.take_append_drop]

/-- What a source of bytes hands out: blocks, and then a failure or nothing more. An empty
block is the end, whatever comes behind it. -/
structure Source where
  blocks : List (List UInt8)
  failure : Option String
  deriving Repr

namespace Source

/-- The blocks up to the end. -/
def taken (s : Source) : List (List UInt8) :=
  s.blocks.takeWhile (!·.isEmpty)

/-- The failure that the source comes to, if no empty block ends it before. -/
def failure? (s : Source) : Option String :=
  if s.blocks.all (!·.isEmpty) then s.failure else none

/-- The pieces of text that the source hands out. -/
def pieces (s : Source) : List (List Char) :=
  Utf8.piecesOf none (s.taken.flatMap reads)

/-- The document of the page that a source hands out. -/
def document (s : Source) : Except LoadError Document :=
  match s.failure? with
  | some reason => .error (.interrupted reason)
  | none => .ok (documentOfPieces s.pieces)

/-- The pieces hold the text that the bytes write, however they come. -/
theorem flatten_pieces (s : Source) :
    s.pieces.flatten = Utf8.decode none s.taken.flatten := by
  rw [pieces, Utf8.flatten_piecesOf]
  congr 1
  induction s.taken with
  | nil => rfl
  | cons block blocks ih =>
    rw [List.flatMap_cons, List.flatten_append, flatten_reads, ih, List.flatten_cons]

end Source

/-- What becomes of an attempt to open a file. -/
inductive Opened where
  | source (s : Source)
  | refused (reason : String)
  deriving Repr

/-- The document of the page in a file, given what becomes of the attempt to open it. -/
def loadFile (path : String) (file : Opened) : Except LoadError Document :=
  match file with
  | .refused reason => .error (.unopened path reason)
  | .source s => s.document

end SelectorFinder.Html
