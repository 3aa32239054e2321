import WorkflowWalk.Text.PrintableTable
import WorkflowWalk.Text.LetterCase

/-!
# Printable characters
-/

namespace WorkflowWalk
namespace Text

/-- Whether a character has a printed form of its own; the space has one, other blanks do not. -/
def isPrintable (c : Char) : Bool :=
  if c.toNat < 0x7F then 0x20 ≤ c.toNat else !inRanges unprintable c.toNat

end Text
end WorkflowWalk
