import SelectorFinder.Html.Reference

/-!
# Tokens of a Page

The text of a page is read as tokens: document types, tags, comments, and runs of text. How
the next token is read depends on where it stands, which is what a `TextMode` says: after
the start of a title, a style or a script, only the matching end tag ends the text.

`read` reads one token and gives what follows it; a tag that is never finished is no token.

## Main results

* `length_read_le`: reading a token takes at least one character.
-/

namespace SelectorFinder.Html

open SelectorFinder.Text

/-- A document type, as far as it was written. -/
structure Doctype where
  name : Option String
  publicId : Option String
  systemId : Option String
  /-- Whether it is broken enough to make a page a legacy one. -/
  broken : Bool
  deriving DecidableEq, Repr

/-- A tag: its name in lower case, and for a start tag its attributes and whether a slash
ends it. -/
structure Tag where
  name : String
  attributes : List (String × String)
  selfClosing : Bool
  deriving DecidableEq, Repr

/-- A unit of a page's text. -/
inductive Token where
  | doctype (d : Doctype)
  | startTag (tag : Tag)
  | endTag (name : String)
  | comment (data : String)
  | text (run : List Char)
  deriving DecidableEq, Repr

/-- How text is read. -/
inductive TextMode where
  /-- Tags, comments and references all count. -/
  | data
  /-- References count, and the end tag of that name. -/
  | escapable (name : String)
  /-- Only the end tag of that name counts. -/
  | raw (name : String)
  /-- The text of a script. -/
  | script
  /-- Text up to the end of the page. -/
  | plain
  deriving DecidableEq, Repr

/-! ### Characters -/

/-- The white space of the markup itself. -/
def isSpace (c : Char) : Bool :=
  c == ' ' || c == '\t' || c == '\n' || c == '\x0c'

/-- The null character is read as U+FFFD where it does not stand in plain text. -/
def withoutNull (cs : List Char) : List Char :=
  cs.map fun c => if c = '\x00' then '\uFFFD' else c

/-- The text of some characters, the null character replaced. -/
def textOf (cs : List Char) : String :=
  String.ofList (withoutNull cs)

/-- A name as it is compared: in lower case. -/
def nameOf (cs : List Char) : String :=
  String.ofList ((withoutNull cs).map Char.toLower)

/-- The characters behind white space. -/
def skipSpace (cs : List Char) : List Char :=
  cs.dropWhile isSpace

/-! ### Tags -/

/-- Part of the name of a tag. -/
def isTagNameChar (c : Char) : Bool :=
  !(isSpace c || c == '/' || c == '>')

/-- Part of the name of an attribute, behind its first character. -/
def isAttributeNameChar (c : Char) : Bool :=
  isTagNameChar c && c != '='

/-- The value of an attribute, from behind its name on, with what follows. None if the text
ends before the value does. -/
def readValue (cs : List Char) : Option (List Char × List Char) :=
  match skipSpace cs with
  | '=' :: cs =>
    match skipSpace cs with
    | [] => none
    | c :: cs =>
      if c = '>' then some ([], c :: cs)
      else if c = '"' ∨ c = '\'' then
        match cs.dropWhile (· ≠ c) with
        | _ :: rest => some (cs.takeWhile (· ≠ c), rest)
        | [] => none
      else
        let isPart := fun c => !(isSpace c || c == '>')
        some (c :: cs.takeWhile isPart, cs.dropWhile isPart)
  | rest => some ([], rest)

/-- What white space is skipped to ends the text. -/
theorem skipSpace_suffix (cs : List Char) : skipSpace cs <:+ cs :=
  List.dropWhile_suffix _

/-- A value is read off the front of the text. -/
theorem readValue_suffix {cs value rest : List Char} (h : readValue cs = some (value, rest)) :
    rest <:+ cs := by
  unfold readValue at h
  split at h
  · next cs' h' =>
    have hs : cs' <:+ cs := (List.suffix_cons _ _).trans (h' ▸ skipSpace_suffix cs)
    split at h
    · simp at h
    · next c cs'' h'' =>
      have hs' : c :: cs'' <:+ cs := (h'' ▸ skipSpace_suffix cs').trans hs
      have hs'' : cs'' <:+ cs := (List.suffix_cons _ _).trans hs'
      split at h
      · obtain ⟨-, rfl⟩ := by simpa using h
        exact hs'
      · split at h
        · split at h
          · next q rest' hd =>
            obtain ⟨-, rfl⟩ := by simpa using h
            exact (List.suffix_cons _ _).trans ((hd ▸ List.dropWhile_suffix _).trans hs'')
          · simp at h
        · obtain ⟨-, rfl⟩ := by simpa using h
          exact (List.dropWhile_suffix _).trans hs''
  · obtain ⟨-, rfl⟩ := by simpa using h
    exact skipSpace_suffix cs

/-- The attributes from behind a tag's name on, whether a slash ends the tag, and what
follows the tag. None if the text ends before the tag does. -/
def readAttributes : List Char → Option (List (String × String) × Bool × List Char)
  | [] => none
  | c :: cs =>
    if c = '>' then some ([], false, cs)
    else if c = '/' ∧ cs.head? = some '>' then some ([], true, cs.tail)
    else if isSpace c || c == '/' then readAttributes cs
    else
      let name := nameOf (c :: cs.takeWhile isAttributeNameChar)
      match _h : readValue (cs.dropWhile isAttributeNameChar) with
      | none => none
      | some (value, rest) =>
        (readAttributes rest).map fun (attributes, selfClosing, rest) =>
          ((name, textOf (Reference.expand true value)) :: attributes, selfClosing, rest)
termination_by cs => cs.length
decreasing_by
  · simp
  · have := ((readValue_suffix _h).trans (List.dropWhile_suffix _)).length_le
    simp; omega

/-- The attributes of a tag are read off the front of the text. -/
theorem readAttributes_suffix {cs : List Char} {r : List (String × String) × Bool × List Char}
    (h : readAttributes cs = some r) : r.2.2 <:+ cs := by
  fun_induction readAttributes cs generalizing r with
  | case1 => simp at h
  | case2 =>
    obtain rfl := Option.some.inj h
    exact List.suffix_cons _ _
  | case3 =>
    obtain rfl := Option.some.inj h
    exact (List.tail_suffix _).trans (List.suffix_cons _ _)
  | case4 _ _ _ _ _ ih => exact (ih h).trans (List.suffix_cons _ _)
  | case5 => simp at h
  | case6 =>
    rename_i hv ih
    obtain ⟨r', hr', rfl⟩ := Option.map_eq_some_iff.1 h
    exact (ih hr').trans
      ((readValue_suffix hv).trans ((List.dropWhile_suffix _).trans (List.suffix_cons _ _)))

/-- The pairs whose names have not come before. -/
def firstOfName : List String → List (String × String) → List (String × String)
  | _, [] => []
  | seen, a :: rest =>
    if seen.contains a.1 then firstOfName seen rest else a :: firstOfName (a.1 :: seen) rest

/-- A tag from its name on, and what follows it. -/
def readTag (cs : List Char) : Option (Tag × List Char) :=
  (readAttributes (cs.dropWhile isTagNameChar)).map fun (attributes, selfClosing, rest) =>
    (⟨nameOf (cs.takeWhile isTagNameChar), firstOfName [] attributes, selfClosing⟩, rest)

/-- A start tag from its name on, and what follows it. -/
def readStartTag (cs : List Char) : Option Token × List Char :=
  match readTag cs with
  | some (tag, rest) => (some (.startTag tag), rest)
  | none => (none, [])

/-- An end tag from its name on, and what follows it. -/
def readEndTag (cs : List Char) : Option Token × List Char :=
  match readTag cs with
  | some (tag, rest) => (some (.endTag tag.name), rest)
  | none => (none, [])

/-- A tag is read off the front of the text. -/
theorem readTag_suffix {cs : List Char} {r : Tag × List Char} (h : readTag cs = some r) :
    r.2 <:+ cs := by
  obtain ⟨r', hr', rfl⟩ := Option.map_eq_some_iff.1 h
  exact (readAttributes_suffix hr').trans (List.dropWhile_suffix _)

/-- A start tag is read off the front of the text. -/
theorem readStartTag_suffix (cs : List Char) : (readStartTag cs).2 <:+ cs := by
  unfold readStartTag
  split
  · next h => exact readTag_suffix h
  · exact List.nil_suffix

/-- An end tag is read off the front of the text. -/
theorem readEndTag_suffix (cs : List Char) : (readEndTag cs).2 <:+ cs := by
  unfold readEndTag
  split
  · next h => exact readTag_suffix h
  · exact List.nil_suffix

/-! ### Comments and document types -/

/-- The text of a comment up to its end, which is `-->` or `--!>` or the end of the page, and
what follows. -/
def commentText : List Char → List Char × List Char
  | [] => ([], [])
  | c :: cs =>
    if c = '-' ∧ cs.take 2 = ['-', '>'] then ([], cs.drop 2)
    else if c = '-' ∧ cs.take 3 = ['-', '!', '>'] then ([], cs.drop 3)
    else if c = '-' ∧ (cs = [] ∨ cs = ['-'] ∨ cs = ['-', '!']) then ([], [])
    else
      let r := commentText cs
      (c :: r.1, r.2)

/-- A comment from behind `<!--` on: it may end right there. -/
def readComment (cs : List Char) : Token × List Char :=
  if cs.head? = some '>' then (.comment "", cs.drop 1)
  else if cs.take 2 = ['-', '>'] then (.comment "", cs.drop 2)
  else
    let r := commentText cs
    (.comment (textOf r.1), r.2)

/-- Markup that is none of its kind is a comment up to the next `>`. -/
def readBogusComment (cs : List Char) : Token × List Char :=
  (.comment (textOf (cs.takeWhile (· ≠ '>'))), (cs.dropWhile (· ≠ '>')).drop 1)

/-- What a comment says is read off the front of the text. -/
theorem commentText_suffix (cs : List Char) : (commentText cs).2 <:+ cs := by
  induction cs with
  | nil => exact List.suffix_rfl
  | cons c cs ih =>
    unfold commentText
    split
    · exact (List.drop_suffix _ _).trans (List.suffix_cons _ _)
    · split
      · exact (List.drop_suffix _ _).trans (List.suffix_cons _ _)
      · split
        · exact List.nil_suffix
        · exact ih.trans (List.suffix_cons _ _)

/-- A comment is read off the front of the text. -/
theorem readComment_suffix (cs : List Char) : (readComment cs).2 <:+ cs := by
  unfold readComment
  split
  · exact List.drop_suffix _ _
  · split
    · exact List.drop_suffix _ _
    · exact commentText_suffix cs

/-- What is taken for a comment is read off the front of the text. -/
theorem readBogusComment_suffix (cs : List Char) : (readBogusComment cs).2 <:+ cs :=
  (List.drop_suffix _ _).trans (List.dropWhile_suffix _)

/-- The rest of a document type is skipped up to the `>` that ends it. -/
def skipDoctype (d : Doctype) (cs : List Char) : Doctype × List Char :=
  (d, (cs.dropWhile (· ≠ '>')).drop 1)

/-- A quoted identifier from behind its quote on, and what follows it; the flag tells whether
its quote was there. -/
def readIdentifier (quote : Char) (cs : List Char) : String × Bool × List Char :=
  let isPart := fun c => c ≠ quote && c ≠ '>'
  let rest := cs.dropWhile isPart
  (textOf (cs.takeWhile isPart), rest.head? = some quote,
    if rest.head? = some quote then rest.drop 1 else rest)

/-- A document type from its system identifier on. The identifier may be missing only behind
a public one. -/
def readSystemId (d : Doctype) (cs : List Char) : Doctype × List Char :=
  match skipSpace cs with
  | [] => ({ d with broken := true }, [])
  | c :: cs =>
    if c = '"' ∨ c = '\'' then
      let (id, closed, rest) := readIdentifier c cs
      skipDoctype { d with
        systemId := some id, broken := d.broken || !closed || rest.all isSpace } rest
    else if c = '>' then ({ d with broken := d.broken || d.publicId.isNone }, cs)
    else skipDoctype { d with broken := true } (c :: cs)

/-- A document type from its public identifier on. -/
def readPublicId (d : Doctype) (cs : List Char) : Doctype × List Char :=
  match skipSpace cs with
  | [] => ({ d with broken := true }, [])
  | c :: cs =>
    if c = '"' ∨ c = '\'' then
      let (id, closed, rest) := readIdentifier c cs
      let d := { d with publicId := some id, broken := !closed }
      if closed then readSystemId d rest else skipDoctype d rest
    else skipDoctype { d with broken := true } (c :: cs)

/-- A document type from behind the word `doctype` on. -/
def readDoctype (cs : List Char) : Doctype × List Char :=
  match skipSpace cs with
  | [] => (⟨none, none, none, true⟩, [])
  | c :: cs =>
    if c = '>' then (⟨none, none, none, true⟩, cs)
    else
      let isPart := fun c => !(isSpace c || c == '>')
      let d : Doctype := ⟨some (nameOf (c :: cs.takeWhile isPart)), none, none, false⟩
      match skipSpace (cs.dropWhile isPart) with
      | [] => ({ d with broken := true }, [])
      | c :: cs =>
        if c = '>' then (d, cs)
        else if startsWithName "public".toList (c :: cs) then readPublicId d (cs.drop 5)
        else if startsWithName "system".toList (c :: cs) then readSystemId d (cs.drop 5)
        else skipDoctype { d with broken := true } (c :: cs)

/-- What is skipped of a document type is the front of the text. -/
theorem skipDoctype_suffix (d : Doctype) (cs : List Char) : (skipDoctype d cs).2 <:+ cs :=
  (List.drop_suffix _ _).trans (List.dropWhile_suffix _)

/-- A quoted identifier is read off the front of the text. -/
theorem readIdentifier_suffix (quote : Char) (cs : List Char) :
    (readIdentifier quote cs).2.2 <:+ cs := by
  unfold readIdentifier
  simp only
  split
  · exact (List.drop_suffix _ _).trans (List.dropWhile_suffix _)
  · exact List.dropWhile_suffix _

/-- A system identifier and what follows it are read off the front of the text. -/
theorem readSystemId_suffix (d : Doctype) (cs : List Char) : (readSystemId d cs).2 <:+ cs := by
  unfold readSystemId
  split
  · exact List.nil_suffix
  · next c cs' h =>
    have hs : c :: cs' <:+ cs := h ▸ skipSpace_suffix cs
    have hs' : cs' <:+ cs := (List.suffix_cons _ _).trans hs
    split
    · exact ((skipDoctype_suffix _ _).trans (readIdentifier_suffix _ _)).trans hs'
    · split
      · exact hs'
      · exact (skipDoctype_suffix _ _).trans hs

/-- A public identifier and what follows it are read off the front of the text. -/
theorem readPublicId_suffix (d : Doctype) (cs : List Char) : (readPublicId d cs).2 <:+ cs := by
  unfold readPublicId
  split
  · exact List.nil_suffix
  · next c cs' h =>
    have hs : c :: cs' <:+ cs := h ▸ skipSpace_suffix cs
    have hs' : cs' <:+ cs := (List.suffix_cons _ _).trans hs
    split
    · dsimp only
      split
      · exact ((readSystemId_suffix _ _).trans (readIdentifier_suffix _ _)).trans hs'
      · exact ((skipDoctype_suffix _ _).trans (readIdentifier_suffix _ _)).trans hs'
    · exact (skipDoctype_suffix _ _).trans hs

/-- A document type is read off the front of the text. -/
theorem readDoctype_suffix (cs : List Char) : (readDoctype cs).2 <:+ cs := by
  unfold readDoctype
  split
  · exact List.nil_suffix
  · next c cs' h =>
    have hs : cs' <:+ cs := (List.suffix_cons _ _).trans (h ▸ skipSpace_suffix cs)
    split
    · exact hs
    · dsimp only
      split
      · exact List.nil_suffix
      · next c' cs'' h' =>
        have ht : c' :: cs'' <:+ cs :=
          ((h' ▸ skipSpace_suffix _).trans (List.dropWhile_suffix _)).trans hs
        have ht' : cs'' <:+ cs := (List.suffix_cons _ _).trans ht
        split
        · exact ht'
        · split
          · exact ((readPublicId_suffix _ _).trans (List.drop_suffix _ _)).trans ht'
          · split
            · exact ((readSystemId_suffix _ _).trans (List.drop_suffix _ _)).trans ht'
            · exact (skipDoctype_suffix _ _).trans ht

/-! ### Text that only an end tag ends -/

/-- Whether what follows a `<` is a slash and that name, and the name ends there. -/
def isEndTagOf (name : List Char) (cs : List Char) : Bool :=
  startsWithName ('/' :: name) cs &&
    match cs[name.length + 1]? with
    | some c => !isTagNameChar c
    | none => false

/-- Whether what follows a `<` is that name, and the name ends there. -/
def isStartTagOf (name : List Char) (cs : List Char) : Bool :=
  startsWithName name cs &&
    match cs[name.length]? with
    | some c => !isTagNameChar c
    | none => false

/-- Where a script stands: outside of a comment, in a comment, or in a script within a
comment; there with the number of hyphens just read, up to two. -/
inductive ScriptPhase where
  | outside
  | escaped (hyphens : Nat)
  | nested (hyphens : Nat)
  deriving DecidableEq, Repr

namespace ScriptPhase

/-- Whether the script ends before a character, given what follows it. -/
def endsAt (p : ScriptPhase) (c : Char) (cs : List Char) : Bool :=
  match p with
  | nested _ => false
  | _ => c == '<' && isEndTagOf "script".toList cs

/-- The phase after a character, given what follows it. -/
def next (p : ScriptPhase) (c : Char) (cs : List Char) : ScriptPhase :=
  match p with
  | outside => if c == '<' && "!--".toList.isPrefixOf cs then escaped 0 else outside
  | escaped n =>
    if c == '-' then escaped (min 2 (n + 1))
    else if c == '>' && n ≥ 2 then outside
    else if c == '<' && isStartTagOf "script".toList cs then nested 0
    else escaped 0
  | nested n =>
    if c == '-' then nested (min 2 (n + 1))
    else if c == '>' && n ≥ 2 then outside
    else if c == '<' && isEndTagOf "script".toList cs then escaped 0
    else nested 0

end ScriptPhase

/-- The text of a script up to its end tag, and what follows. -/
def scriptText (p : ScriptPhase) : List Char → List Char × List Char
  | [] => ([], [])
  | c :: cs =>
    if p.endsAt c cs then ([], c :: cs)
    else
      let r := scriptText (p.next c cs) cs
      (c :: r.1, r.2)

/-- The text of a script is read off the front of the text. -/
theorem scriptText_suffix (p : ScriptPhase) (cs : List Char) : (scriptText p cs).2 <:+ cs := by
  induction cs generalizing p with
  | nil => exact List.suffix_rfl
  | cons c cs ih =>
    unfold scriptText
    split
    · exact List.suffix_rfl
    · exact (ih _).trans (List.suffix_cons _ _)

/-- The text of a section up to `]]>`, and what follows. -/
def sectionText : List Char → List Char × List Char
  | [] => ([], [])
  | c :: cs =>
    if c = ']' ∧ cs.take 2 = [']', '>'] then ([], cs.drop 2)
    else
      let r := sectionText cs
      (c :: r.1, r.2)

/-- The text of a section is read off the front of the text. -/
theorem sectionText_suffix (cs : List Char) : (sectionText cs).2 <:+ cs := by
  induction cs with
  | nil => exact List.suffix_rfl
  | cons c cs ih =>
    unfold sectionText
    split
    · exact (List.drop_suffix _ _).trans (List.suffix_cons _ _)
    · exact ih.trans (List.suffix_cons _ _)

/-! ### One token -/

/-- What follows `<!`: a comment, a document type, or a section, which counts as one only
where `sections` says so. -/
def readDeclaration (sections : Bool) (cs : List Char) : Option Token × List Char :=
  if "--".toList.isPrefixOf cs then
    let r := readComment (cs.drop 2)
    (some r.1, r.2)
  else if startsWithName "doctype".toList cs then
    let r := readDoctype (cs.drop 7)
    (some (.doctype r.1), r.2)
  else if sections && "[CDATA[".toList.isPrefixOf cs then
    let r := sectionText (cs.drop 7)
    (some (.text r.1), r.2)
  else
    let r := readBogusComment cs
    (some r.1, r.2)

/-- What follows a `<` among tags and text. -/
def readMarkup (sections : Bool) : List Char → Option Token × List Char
  | [] => (some (.text ['<']), [])
  | c :: cs =>
    if c = '!' then readDeclaration sections cs
    else if c = '?' then
      let r := readBogusComment (c :: cs)
      (some r.1, r.2)
    else if isAsciiLetter c then readStartTag (c :: cs)
    else if c = '/' then
      match cs with
      | [] => (some (.text ['<', '/']), [])
      | d :: ds =>
        if isAsciiLetter d then readEndTag (d :: ds)
        else if d = '>' then (none, ds)
        else
          let r := readBogusComment (d :: ds)
          (some r.1, r.2)
    else (some (.text ['<']), c :: cs)

/-- A run of text that starts with `c` and goes up to the next `<`. -/
def readRun (decode : List Char → List Char) (c : Char) (cs : List Char) :
    Option Token × List Char :=
  (some (.text (decode (c :: cs.takeWhile (· ≠ '<')))), cs.dropWhile (· ≠ '<'))

/-- Text that only the end tag of an element ends. -/
def readUntilEndTag (name : String) (decode : List Char → List Char) (c : Char)
    (cs : List Char) : Option Token × List Char :=
  if c = '<' ∧ isEndTagOf name.toList cs then readEndTag (cs.drop 1)
  else readRun (withoutNull ∘ decode) c cs

/-- Reads a token from a text of which `c` is the first character, and gives what follows.
`sections` tells whether a section of character data may stand here. -/
def read (mode : TextMode) (sections : Bool) (c : Char) (cs : List Char) :
    Option Token × List Char :=
  match mode with
  | .data => if c = '<' then readMarkup sections cs else readRun (Reference.expand false) c cs
  | .escapable name => readUntilEndTag name (Reference.expand false) c cs
  | .raw name => readUntilEndTag name id c cs
  | .script =>
    if ScriptPhase.outside.endsAt c cs then readEndTag (cs.drop 1)
    else
      let r := scriptText (ScriptPhase.outside.next c cs) cs
      (some (.text (withoutNull (c :: r.1))), r.2)
  | .plain => (some (.text (withoutNull (c :: cs))), [])

/-- A declaration is read off the front of the text. -/
theorem readDeclaration_suffix (sections : Bool) (cs : List Char) :
    (readDeclaration sections cs).2 <:+ cs := by
  unfold readDeclaration
  split
  · exact (readComment_suffix _).trans (List.drop_suffix _ _)
  · split
    · exact (readDoctype_suffix _).trans (List.drop_suffix _ _)
    · split
      · exact (sectionText_suffix _).trans (List.drop_suffix _ _)
      · exact readBogusComment_suffix _

/-- Any markup is read off the front of the text. -/
theorem readMarkup_suffix (sections : Bool) (cs : List Char) :
    (readMarkup sections cs).2 <:+ cs := by
  unfold readMarkup
  split
  · exact List.suffix_rfl
  · next c cs =>
    have hc : cs <:+ c :: cs := List.suffix_cons _ _
    split
    · exact (readDeclaration_suffix _ _).trans hc
    · split
      · exact readBogusComment_suffix _
      · split
        · exact readStartTag_suffix _
        · split
          · split
            · exact hc
            · next d ds =>
              split
              · exact (readEndTag_suffix _).trans hc
              · split
                · exact (List.suffix_cons _ _).trans hc
                · exact (readBogusComment_suffix _).trans hc
          · exact List.suffix_rfl

/-- What stands before an end tag is read off the front of the text. -/
theorem readUntilEndTag_suffix (name : String) (decode : List Char → List Char) (c : Char)
    (cs : List Char) : (readUntilEndTag name decode c cs).2 <:+ cs := by
  unfold readUntilEndTag
  split
  · exact (readEndTag_suffix _).trans (List.drop_suffix _ _)
  · exact List.dropWhile_suffix _

/-- **A token is read off the front of the text**, whatever the mode is. -/
theorem read_suffix (mode : TextMode) (sections : Bool) (c : Char) (cs : List Char) :
    (read mode sections c cs).2 <:+ cs := by
  unfold read
  split
  · split
    · exact readMarkup_suffix _ _
    · exact List.dropWhile_suffix _
  · exact readUntilEndTag_suffix _ _ _ _
  · exact readUntilEndTag_suffix _ _ _ _
  · split
    · exact (readEndTag_suffix _).trans (List.drop_suffix _ _)
    · exact scriptText_suffix _ _
  · exact List.nil_suffix

/-- Reading a token takes at least the first character. -/
theorem length_read_le (mode : TextMode) (sections : Bool) (c : Char) (cs : List Char) :
    (read mode sections c cs).2.length ≤ cs.length :=
  (read_suffix mode sections c cs).length_le

end SelectorFinder.Html
