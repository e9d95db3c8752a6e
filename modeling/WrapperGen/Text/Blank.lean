import WrapperGen.Text
import WrapperGen.Text.Ranges

/-!
# Blanks and fields

Blanks are the characters of white space of any script. They separate the fields of a text, and
they are what a line of diagnostics is stripped of at its ends.
-/

namespace WrapperGen.Text

/-- The blanks. -/
def blankRanges : List (Nat × Nat) := [
  (0x9, 0xD), (0x1C, 0x20), (0x85, 0x85), (0xA0, 0xA0), (0x1680, 0x1680), (0x2000, 0x200A),
  (0x2028, 0x2029), (0x202F, 0x202F), (0x205F, 0x205F), (0x3000, 0x3000)]

/-- Whether the character is white space. -/
def isBlank (c : Char) : Bool := inRanges blankRanges c

/-- The non-empty runs of characters between blanks, in order. -/
def fields (text : Text) : List Text := (text.splitOnP isBlank).filter (!·.isEmpty)

/-- The text without the blanks at both of its ends. -/
def strip (text : Text) : Text := stripBy isBlank text

end WrapperGen.Text
