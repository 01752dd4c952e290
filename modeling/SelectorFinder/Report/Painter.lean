import SelectorFinder.Selector.Weight

/-!
# Painted Text

Text for a terminal may be painted: it is put between an escape sequence that names the
style and the one that ends it. A painter that is switched off leaves every text as it is.
-/

namespace SelectorFinder.Report

open SelectorFinder.Selector

/-- How a text is painted. -/
inductive Style where
  | bold
  | dimmed
  | magenta
  | red
  | boldRed
  | yellow
  | green
  | cyan
  deriving DecidableEq, Repr

/-- The parameters of the escape sequence of a style. -/
def Style.codes : Style → String
  | bold => "1"
  | dimmed => "2"
  | magenta => "35"
  | red => "31"
  | boldRed => "31;1"
  | yellow => "33"
  | green => "32"
  | cyan => "36"

/-- The colour of a tier. -/
def Style.ofTier : Tier → Style
  | .veryHigh => boldRed
  | .high => red
  | .medium => yellow
  | .low => green
  | .veryLow => cyan

/-- The character that starts an escape sequence. -/
def escape : Char := '\x1b'

/-- An escape sequence with the given parameters. -/
def escapeSequence (codes : String) : String :=
  escape.toString ++ "[" ++ codes ++ "m"

/-- Whether text is painted at all. -/
structure Painter where
  enabled : Bool
  deriving DecidableEq, Repr

namespace Painter

/-- The text in a style. -/
def paint (p : Painter) (style : Style) (text : String) : String :=
  if p.enabled then escapeSequence style.codes ++ text ++ escapeSequence "0" else text

/-- A weight in the colour of its tier, and the tier in words. -/
def weight (p : Painter) (w : Weight) : String :=
  p.paint (.ofTier w.tier) w.toText ++ " " ++ p.paint .dimmed w.tier.toText

end Painter

end SelectorFinder.Report
