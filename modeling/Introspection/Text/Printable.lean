import Introspection.Text.Blank
import Introspection.Text.PrintableTable

/-!
# Printable characters

`isPrintable` tells the characters that can stand for themselves in a written text, and
`attaches` those that would join the character before them.
-/

namespace Introspection.Text

/-- Whether a character shows as itself: it is no control or format character, no separator but
the space, not ignored by default, and assigned for general use. -/
def isPrintable (c : Char) : Bool :=
  if c.toNat < 0x7F then 0x20 ≤ c.toNat else !inRanges unprintableRanges c.toNat

/-- Whether a character is a mark that attaches to the character before it.  Letters never are, not
even the halfwidth signs for voiced syllables. -/
def attaches (c : Char) : Bool :=
  0x300 ≤ c.toNat && inRanges extendingRanges c.toNat

end Introspection.Text
