/-!
# Reading UTF-8

Bytes are read as UTF-8 without ever failing: each maximal part that starts a well-formed
sequence and cannot be completed, and each byte that starts none, is read as one U+FFFD.
The reader keeps what it still expects of the sequence it is in, so it takes the bytes one
at a time and the characters do not depend on how the bytes were cut into blocks
(`Utf8.read_append`).

What does depend on it is where the text comes in pieces, which matters to a reader who
looks at the start of each (`Utf8.piecesOf`).
-/

namespace SelectorFinder.Text.Utf8

/-- What is read where the bytes are ill-formed. -/
def replacement : Char := '\uFFFD'

/-- What is read from bytes: a character that they write, or that they write none. -/
inductive Item where
  | char (c : Char)
  | illFormed
  deriving DecidableEq, Repr

namespace Item

/-- The character that an item is read as. -/
def toChar : Item → Char
  | char c => c
  | illFormed => replacement

/-- Whether the bytes write a character. -/
def isChar : Item → Bool
  | char _ => true
  | illFormed => false

end Item

/-- A sequence that has begun: the value of the bits so far, the range of the next byte, and
how many bytes follow that one. -/
structure Partial where
  value : Nat
  low : UInt8
  high : UInt8
  more : Nat

/-- The items complete after a byte, and the sequence it leaves open. -/
structure Step where
  items : List Item
  rest : Option Partial

/-- A byte read where no sequence is open. -/
def first (b : UInt8) : Step :=
  let n := b.toNat
  let begin (mask : Nat) (low high : UInt8) (more : Nat) : Step :=
    ⟨[], some ⟨n % mask, low, high, more⟩⟩
  if n < 0x80 then ⟨[.char (Char.ofNat n)], none⟩
  else if n < 0xC2 then ⟨[.illFormed], none⟩
  else if n < 0xE0 then begin 0x20 0x80 0xBF 0
  else if n == 0xE0 then begin 0x10 0xA0 0xBF 1
  else if n == 0xED then begin 0x10 0x80 0x9F 1
  else if n < 0xF0 then begin 0x10 0x80 0xBF 1
  else if n == 0xF0 then begin 0x08 0x90 0xBF 2
  else if n < 0xF4 then begin 0x08 0x80 0xBF 2
  else if n == 0xF4 then begin 0x08 0x80 0x8F 2
  else ⟨[.illFormed], none⟩

/-- A byte read after what is open: it continues the open sequence if it is in range, and
otherwise the sequence is given up and the byte starts afresh. -/
def step : Option Partial → UInt8 → Step
  | none, b => first b
  | some p, b =>
    if p.low ≤ b && b ≤ p.high then
      let value := p.value * 0x40 + b.toNat % 0x40
      match p.more with
      | 0 => ⟨[.char (Char.ofNat value)], none⟩
      | more + 1 => ⟨[], some ⟨value, 0x80, 0xBF, more⟩⟩
    else
      let s := first b
      ⟨.illFormed :: s.items, s.rest⟩

/-- The items of some bytes, and the sequence they leave open. -/
def read (p : Option Partial) : List UInt8 → Step
  | [] => ⟨[], p⟩
  | b :: bs =>
    let s := step p b
    let r := read s.rest bs
    ⟨s.items ++ r.items, r.rest⟩

/-- Reading blocks one after the other is reading the whole. -/
theorem read_append (p : Option Partial) (xs ys : List UInt8) :
    read p (xs ++ ys) =
      ⟨(read p xs).items ++ (read (read p xs).rest ys).items, (read (read p xs).rest ys).rest⟩ := by
  induction xs generalizing p with
  | nil => simp [read]
  | cons x xs ih => simp [read, ih, List.append_assoc]

/-! ### Pieces of text -/

/-- The pieces in which items are handed on: characters together, and alone what stands for
bytes that write none. -/
def pieces : List Item → List (List Char)
  | [] => []
  | [a] => [[a.toChar]]
  | a :: b :: items =>
    match pieces (b :: items) with
    | [] => [[a.toChar]]
    | piece :: rest =>
      if a.isChar && b.isChar then (a.toChar :: piece) :: rest else [a.toChar] :: piece :: rest

/-- How many bytes are looked at together to complete a sequence that a block left open. -/
def windowSize : Nat := 4

/-- The characters at the start that so many bytes write. -/
def fitting : Nat → List Item → List Item
  | size, .char c :: items =>
    if c.utf8Size ≤ size then .char c :: fitting (size - c.utf8Size) items else []
  | _, _ => []

/-- The pieces of a block that comes behind an open sequence: the character that completes it
is handed on before the rest, with the characters that still fit into the window. -/
def piecesBehind (items : List Item) : List (List Char) :=
  let front := fitting windowSize items
  pieces front ++ pieces (items.drop front.length)

/-- The pieces of the text that blocks of bytes write, given the sequence left open before
them: a sequence left open at the end is one U+FFFD. -/
def piecesOf (p : Option Partial) : List (List UInt8) → List (List Char)
  | [] => if p.isSome then [[replacement]] else []
  | block :: blocks =>
    let r := read p block
    (if p.isSome then piecesBehind r.items else pieces r.items) ++ piecesOf r.rest blocks

/-- The characters that bytes write, a sequence left open at the end being one U+FFFD. -/
def decode (p : Option Partial) (bytes : List UInt8) : List Char :=
  let r := read p bytes
  r.items.map Item.toChar ++ if r.rest.isSome then [replacement] else []

/-- Pieces put together are the characters that were read. -/
theorem flatten_pieces (items : List Item) :
    (pieces items).flatten = items.map Item.toChar := by
  fun_induction pieces items with
  | case1 => rfl
  | case2 => rfl
  | case3 _ _ _ h ih => simp [h] at ih
  | case4 _ _ _ _ _ h _ ih => simpa [h] using ih
  | case5 _ _ _ _ _ h _ ih => simpa [h] using ih

/-- What fits and what is left are all there was. -/
theorem fitting_append_drop (size : Nat) (items : List Item) :
    fitting size items ++ items.drop (fitting size items).length = items := by
  fun_induction fitting size items with
  | case1 _ _ _ _ ih => simpa using ih
  | case2 => simp
  | case3 => simp

/-- What comes behind the first piece is complete as well. -/
theorem flatten_piecesBehind (items : List Item) :
    (piecesBehind items).flatten = items.map Item.toChar := by
  simp only [piecesBehind, List.flatten_append, flatten_pieces, ← List.map_append,
    fitting_append_drop]

/-- Put together, the pieces are what the bytes write, however they were cut into blocks. -/
theorem flatten_piecesOf (p : Option Partial) (blocks : List (List UInt8)) :
    (piecesOf p blocks).flatten = decode p blocks.flatten := by
  induction blocks generalizing p with
  | nil => cases p <;> rfl
  | cons block blocks ih =>
    simp only [piecesOf, List.flatten_append, ih, decode, List.flatten_cons, read_append,
      List.map_append, List.append_assoc]
    split
    · rw [flatten_piecesBehind]
    · rw [flatten_pieces]

end SelectorFinder.Text.Utf8
