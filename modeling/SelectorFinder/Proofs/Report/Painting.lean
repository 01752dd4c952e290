import SelectorFinder.Proofs.Selector.Scanning
import SelectorFinder.Proofs.Text.Tokens
import SelectorFinder.Report.Listing

/-!
# Painted Listings

What painting does to the text of a listing: it puts escape sequences in, and nothing else. So
the plain text comes back when they are removed, unless there are escape characters in the
texts that are listed; a plain listing has no other ones.

## Main results

* `Paints.withoutEscapes_eq`: removing the escape sequences from a painted text.
* `Listing.paints_render`: a painted listing is the plain one with escape sequences put in.
* `Listing.hasEscape_render`: where the escape characters of a plain listing come from.
* `Listing.withoutEscapes_render`: the plain listing, got back from the painted one.
-/

namespace SelectorFinder.Report

open SelectorFinder.Inspection SelectorFinder.Selector SelectorFinder.Text

/-! ### Escape sequences -/

/-- A character of the parameters of an escape sequence. -/
def isParameter (c : Char) : Bool :=
  c.isDigit || c == ';'

/-- The escape character, an opening bracket, any parameters, and `m`. -/
def escapeToken : Pattern
  | _, c :: '[' :: cs =>
    let parameters := cs.takeWhile isParameter
    if c = escape ∧ (cs.drop parameters.length).head? = some 'm' then parameters.length + 3 else 0
  | _, _ => 0

/-- The text with every escape sequence removed. -/
def withoutEscapes (text : String) : String :=
  String.ofList (replaceAll escapeToken [] text.toList)

variable {plain painted codes : String} {c : Char}

/-- An escape sequence starts with the escape character. -/
theorem inert_escapeToken (h : c ≠ escape) : Inert escapeToken c := by
  intro before cs
  unfold escapeToken
  split
  next heq =>
    obtain ⟨rfl, -⟩ := List.cons.inj heq
    exact if_neg fun hc => h hc.1
  next => rfl

/-- What stands before a place is of no matter for escape sequences. -/
theorem pieces_escapeToken (before : Option Char) (cs : List Char) :
    pieces escapeToken before cs = pieces escapeToken none cs := by
  refine pieces_congr_before fun cs => ?_
  unfold escapeToken
  split <;> rfl

/-- **An escape sequence is removed**, whatever follows it. -/
theorem replaceAll_escapeSequence (h : ∀ c ∈ codes.toList, isParameter c = true)
    (rest : List Char) :
    replaceAll escapeToken [] ((escapeSequence codes).toList ++ rest) =
      replaceAll escapeToken [] rest := by
  have hend : ∀ c ∈ ('m' :: rest).head?, isParameter c = false := by
    rintro c ⟨⟩
    decide
  have htoken : escapeToken none (escape :: ('[' :: codes.toList ++ ['m']) ++ rest) =
      ('[' :: codes.toList ++ ['m']).length + 1 := by
    have htext : escape :: ('[' :: codes.toList ++ ['m']) ++ rest =
        escape :: '[' :: (codes.toList ++ 'm' :: rest) := by simp
    rw [htext, escapeToken, takeWhile_stretch h hend, List.drop_left]
    simp
  have hsequence : (escapeSequence codes).toList =
      escape :: ('[' :: codes.toList ++ ['m']) := by
    simp [escapeSequence]
  rw [replaceAll, hsequence, pieces_append_of_hit htoken, pieces_escapeToken, List.flatMap_cons]
  rfl

/-- **Other texts stay**, in front of any text. -/
theorem replaceAll_of_notMem {text : List Char} (h : escape ∉ text) (rest : List Char) :
    replaceAll escapeToken [] (text ++ rest) = text ++ replaceAll escapeToken [] rest := by
  have hinert : ∀ c ∈ text, Inert escapeToken c := fun c hc =>
    inert_escapeToken fun he => h (he ▸ hc)
  rw [replaceAll, pieces_append_of_inert hinert, pieces_escapeToken, List.flatMap_append]
  simp [List.flatMap_map, replaceAll]

/-! ### Painted texts -/

/-- **What is painted**: the second text is the first one with escape sequences put in. -/
inductive Paints : String → String → Prop
  | refl (text : String) : Paints text text
  | sequence {codes : String} (h : ∀ c ∈ codes.toList, isParameter c = true) :
      Paints "" (escapeSequence codes)
  | append {plain painted plain' painted' : String} (h : Paints plain painted)
      (h' : Paints plain' painted') : Paints (plain ++ plain') (painted ++ painted')

/-- Removing the escape sequences of a painted text, in front of any text. -/
theorem Paints.replaceAll_append (h : Paints plain painted) (hplain : escape ∉ plain.toList)
    (rest : List Char) : replaceAll escapeToken [] (painted.toList ++ rest) =
      plain.toList ++ replaceAll escapeToken [] rest := by
  induction h generalizing rest with
  | refl text => exact replaceAll_of_notMem hplain rest
  | sequence h => exact replaceAll_escapeSequence h rest
  | append h h' ih ih' =>
    rw [String.toList_append, List.mem_append, not_or] at hplain
    rw [String.toList_append, String.toList_append, List.append_assoc, ih hplain.1,
      ih' hplain.2, List.append_assoc]

/-- **The plain text comes back** when the escape sequences are removed, if it has no escape
character of its own. -/
theorem Paints.withoutEscapes_eq (h : Paints plain painted) (hplain : escape ∉ plain.toList) :
    withoutEscapes painted = plain := by
  have hall := h.replaceAll_append hplain []
  rw [List.append_nil] at hall
  rw [withoutEscapes, hall]
  simp [replaceAll, pieces]

/-- The painter that paints. -/
abbrev Painter.on : Painter := ⟨true⟩

/-- The painter that leaves every text as it is. -/
abbrev Painter.off : Painter := ⟨false⟩

/-- The parameters of the styles are digits, with semicolons between them. -/
theorem Style.isParameter_of_mem_codes (style : Style) :
    ∀ c ∈ style.codes.toList, isParameter c = true := by
  have hall : style.codes.toList.all isParameter = true := by cases style <;> rfl
  exact List.all_eq_true.1 hall

/-- A text in a style stands between two escape sequences. -/
theorem paints_paint (style : Style) (text : String) :
    Paints (Painter.off.paint style text) (Painter.on.paint style text) := by
  have hreset : ∀ c ∈ "0".toList, isParameter c = true := List.all_eq_true.1 rfl
  have hpaint : Paints ("" ++ text ++ "")
      (escapeSequence style.codes ++ text ++ escapeSequence "0") :=
    .append (.append (.sequence style.isParameter_of_mem_codes) (.refl text)) (.sequence hreset)
  rwa [String.empty_append, String.append_empty] at hpaint

/-- Of a weight its numbers and its tier are painted, one by one. -/
theorem paints_weight (w : Weight) : Paints (Painter.off.weight w) (Painter.on.weight w) :=
  ((paints_paint _ _).append (.refl _)).append (paints_paint _ _)

namespace Listing

/-- Of a candidate its label, its weight and its selector are painted. -/
theorem paints_candidateLines (number : Nat) (c : Candidate) :
    Paints (candidateLines .off number c) (candidateLines .on number c) := by
  have hlabel := paints_paint .magenta (padRight labelWidth c.kind.label)
  have hselector := paints_paint .bold c.selector
  have hfirst := (((Paints.refl (padLeft 3 (toString number) ++ ". ")).append hlabel).append
    (.refl " ")).append (paints_weight c.weight)
  exact (((((((hfirst.append (.refl _)).append (.refl _)).append hselector).append
    (.refl _)).append (.refl _)).append (.refl _)).append (.refl _))

/-- The lines of all candidates are painted one candidate after the other. -/
theorem paints_numberedLines (number : Nat) (cs : List Candidate) :
    Paints (numberedLines .off number cs) (numberedLines .on number cs) := by
  induction cs generalizing number with
  | nil => exact .refl _
  | cons c cs ih => exact (paints_candidateLines number c).append (ih (number + 1))

/-- **A painted listing** is the plain one with escape sequences put in. -/
theorem paints_render (l : Listing) : Paints (l.render .off) (l.render .on) := by
  have hheading := (paints_paint .bold l.heading).append (.refl "\n")
  have hlines := paints_numberedLines 1 l.candidates
  rw [render, render]
  cases l.candidates.head?.bind (·.parent) with
  | none => exact ((hheading.append (.refl _)).append hlines).append (.refl _)
  | some s =>
    have hparent := (paints_paint .dimmed (parentLine s)).append (.refl "\n")
    exact ((hheading.append hparent).append hlines).append (.refl _)

end Listing

/-! ### Escape characters -/

/-- Whether a text has an escape character. -/
def HasEscape (text : String) : Prop :=
  escape ∈ text.toList

/-- Whether there is an escape character can be read off the text. -/
instance (text : String) : Decidable (HasEscape text) :=
  inferInstanceAs (Decidable (escape ∈ text.toList))

/-- Whether one of some texts has an escape character. -/
def AnyHasEscape (texts : List String) : Prop :=
  ∃ text ∈ texts, HasEscape text

variable {s t : String} {texts texts' : List String}

/-- Two texts put together have the escape characters of both. -/
@[simp] theorem hasEscape_append : HasEscape (s ++ t) ↔ HasEscape s ∨ HasEscape t := by
  rw [HasEscape, String.toList_append, List.mem_append, HasEscape, HasEscape]

/-- Where there are no texts there is no escape character. -/
@[simp] theorem not_anyHasEscape_nil : ¬ AnyHasEscape [] := by
  simp [AnyHasEscape]

/-- Of several texts the first one counts like the others. -/
@[simp] theorem anyHasEscape_cons :
    AnyHasEscape (t :: texts) ↔ HasEscape t ∨ AnyHasEscape texts := by
  simp [AnyHasEscape]

/-- Two lists of texts have the escape characters of both. -/
@[simp] theorem anyHasEscape_append :
    AnyHasEscape (texts ++ texts') ↔ AnyHasEscape texts ∨ AnyHasEscape texts' := by
  simp only [AnyHasEscape, List.mem_append, or_and_right, exists_or]

/-- A separator without escape characters adds none. -/
theorem hasEscape_intercalate {sep : String} (hsep : ¬ HasEscape sep) (texts : List String) :
    HasEscape (sep.intercalate texts) ↔ AnyHasEscape texts := by
  induction texts with
  | nil => simp [HasEscape]
  | cons t texts ih =>
    cases texts with
    | nil => simp
    | cons t' texts =>
      rw [String.intercalate_cons_cons, hasEscape_append, hasEscape_append, ih, or_iff_left hsep]
      exact anyHasEscape_cons.symm

/-- A number is written without escape characters. -/
@[simp] theorem not_hasEscape_repr (n : Nat) : ¬ HasEscape n.repr := by
  rw [← Nat.toString_eq_repr]
  exact fun h => absurd (isDigit_of_mem_toString h) (by decide)

/-- Blanks that fill a text up are no escape characters. -/
@[simp] theorem not_hasEscape_blanks (n : Nat) : ¬ HasEscape ("".pushn ' ' n) := by
  rw [String.pushn_eq_repeat_push]
  induction n with
  | zero => decide
  | succ n ih =>
    rw [HasEscape, Nat.repeat, String.toList_push, List.mem_append, not_or]
    exact ⟨ih, by decide⟩

/-- The label of a kind has no escape character. -/
@[simp] theorem not_hasEscape_label (kind : CandidateKind) : ¬ HasEscape kind.label := by
  cases kind <;> decide

/-- The name of a tier has no escape character. -/
@[simp] theorem not_hasEscape_tier (tier : Tier) : ¬ HasEscape tier.toText := by
  cases tier <;> decide

/-- A plain weight has no escape character. -/
@[simp] theorem not_hasEscape_weight (w : Weight) : ¬ HasEscape (Painter.off.weight w) := by
  have htext : Painter.off.weight w = "(" ++ w.inline.repr ++ "," ++ w.ids.repr ++ "," ++
      w.classes.repr ++ "," ++ w.elements.repr ++ ")" ++ " " ++ w.tier.toText := rfl
  rw [htext]
  simp +decide

/-! ### Escape characters of a plain listing -/

/-- Class names are written with points between them, which add no escape characters. -/
theorem hasEscape_renderClasses (classes : List String) :
    HasEscape (Summary.renderClasses classes) ↔ AnyHasEscape classes := by
  rw [Summary.renderClasses, hasEscape_append, hasEscape_intercalate (by decide),
    or_iff_right (by decide)]

/-- The texts of a summary that are printed. -/
def printedSummary (s : Summary) : List String :=
  s.tag :: (s.id.toList ++ s.classes.getD [] ++ s.attributes)

/-- The line on the parent prints what is said of it, and nothing else that could have some. -/
theorem hasEscape_parentLine (s : Summary) :
    HasEscape (Listing.parentLine s) ↔ AnyHasEscape (printedSummary s) := by
  obtain ⟨tag, id, classes, attributes⟩ := s
  have hblank : ¬ HasEscape " " := by decide
  cases id <;> cases classes <;> cases attributes <;>
    simp +decide [Listing.parentLine, Summary.toText, printedSummary, hasEscape_renderClasses,
      hasEscape_intercalate hblank, or_assoc]

namespace Listing

/-- The texts of a listing that are printed: its label and its path, what is said of the parent,
and the selectors with their descriptions. -/
def printed (l : Listing) : List String :=
  l.label :: (l.path.toList ++
    (l.candidates.head?.bind (·.parent)).elim [] printedSummary ++
    l.candidates.flatMap fun c => [c.selector, c.description])

/-- The heading prints the label, and the path if there is one. -/
theorem hasEscape_heading (l : Listing) :
    HasEscape l.heading ↔ HasEscape l.label ∨ AnyHasEscape l.path.toList := by
  rw [heading]
  -- the path is missing, empty or printed
  split <;> simp +decide [*]

/-- The lines of a candidate print its selector and its description; label and weight have none. -/
theorem hasEscape_candidateLines (number : Nat) (c : Candidate) :
    HasEscape (candidateLines .off number c) ↔ HasEscape c.selector ∨ HasEscape c.description := by
  simp +decide [candidateLines, padLeft, padRight, Painter.paint]

/-- The lines of all candidates print what those of each candidate do. -/
theorem hasEscape_numberedLines (number : Nat) (cs : List Candidate) :
    HasEscape (numberedLines .off number cs) ↔
      AnyHasEscape (cs.flatMap fun c => [c.selector, c.description]) := by
  induction cs generalizing number with
  | nil => simp +decide [numberedLines]
  | cons c cs ih =>
    rw [numberedLines, hasEscape_append, hasEscape_candidateLines, ih, List.flatMap_cons,
      anyHasEscape_append, anyHasEscape_cons, anyHasEscape_cons]
    simp

/-- **A plain listing has escape characters** only from the texts that are printed. -/
theorem hasEscape_render (l : Listing) : HasEscape (l.render .off) ↔ AnyHasEscape l.printed := by
  have hbreak : ¬ HasEscape "\n" := by decide
  rw [render, printed]
  cases l.candidates.head?.bind (·.parent) with
  | none =>
    simp [Painter.paint, hbreak, hasEscape_heading, hasEscape_numberedLines, or_assoc]
  | some s =>
    simp [Painter.paint, hbreak, hasEscape_heading, hasEscape_parentLine, hasEscape_numberedLines,
      or_assoc]

/-- A painted listing always has some, around its heading. -/
theorem hasEscape_render_on (l : Listing) : HasEscape (l.render .on) := by
  have hheading : HasEscape (Painter.on.paint .bold l.heading) := by
    simp [HasEscape, Painter.paint, escapeSequence]
  rw [render]
  simp [hheading]

/-- **Painting changes nothing but escapes.** If none of the texts that a listing prints has an
escape character, then the painted listing without its escape sequences is the plain one, and
all escape characters are gone with them. -/
theorem withoutEscapes_render (l : Listing) (h : ∀ text ∈ l.printed, ¬ HasEscape text) :
    withoutEscapes (l.render .on) = l.render .off ∧
      HasEscape (l.render .on) ∧ ¬ HasEscape (l.render .off) := by
  have hplain : ¬ HasEscape (l.render .off) := by
    rw [hasEscape_render]
    rintro ⟨text, htext, hescape⟩
    exact h text htext hescape
  exact ⟨l.paints_render.withoutEscapes_eq hplain, l.hasEscape_render_on, hplain⟩

/-- A listing whose texts are full of what escape sequences are made of. -/
def bracketListing : Listing where
  path := some "1/0"
  label := "b#[0m.31m"
  candidates :=
    [⟨.attributes, "b[data-x=\"[31;1m\"]", "Based on the element's data attributes",
        ⟨0, 0, 1, 1⟩, some ⟨"p", some "[1m", some ["35m", ";m"], ["role=\"[m\""]⟩⟩,
      ⟨.basic, "#[0m", "Simple selector by tag, class or id", ⟨0, 1, 0, 0⟩,
        some ⟨"p", some "[1m", some ["35m", ";m"], ["role=\"[m\""]⟩⟩]

/-- All of its texts stay when the escape sequences of the painted listing are removed. -/
theorem withoutEscapes_render_bracketListing :
    (∀ text ∈ bracketListing.printed, ¬ HasEscape text) ∧
      withoutEscapes (bracketListing.render .on) = bracketListing.render .off ∧
      HasEscape (bracketListing.render .on) ∧ ¬ HasEscape (bracketListing.render .off) := by
  have hprinted : ∀ text ∈ bracketListing.printed, ¬ HasEscape text := by decide
  exact ⟨hprinted, bracketListing.withoutEscapes_render hprinted⟩

end Listing

end SelectorFinder.Report
