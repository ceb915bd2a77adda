/-
  PromptEngine.Text.Width — how many columns of a terminal a character takes.

  Marks that belong to the character before them take none, the characters of East Asian scripts
  and pictures take two, and any other character takes one.  The Khmer sign U+17D8 alone takes
  three.
-/
import PromptEngine.Text.PrintableTable
import PromptEngine.Text.WhiteSpace
import PromptEngine.Text.WidthTable

namespace PromptEngine

/-- Whether a character takes no room of its own. -/
def isHollow (c : Char) : Bool :=
  inRanges hollowRanges c.toNat
    || inRanges graphemeExtendRanges c.toNat && !inRanges spacingRanges c.toNat

/-- The number of columns of a character. -/
def columns (c : Char) : Nat :=
  if c.toNat < 0x7F then 1
  else if isHollow c then 0
  else if inRanges wideRanges c.toNat then 2
  else if c == '\u17d8' then 3
  else 1

end PromptEngine
