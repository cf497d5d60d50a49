/-
# Blank characters

The 25 characters with the Unicode property `White_Space`.  Trimming, word
splitting and the skipping of empty lines all use this one class.
-/
import Flowchart.Text.CodeRange

namespace Flowchart

/-- The characters with the property `White_Space`. -/
def blankRanges : CodeRanges :=
  [
    (0x9, 0xD), (0x20, 0x20), (0x85, 0x85), (0xA0, 0xA0), (0x1680, 0x1680),
    (0x2000, 0x200A), (0x2028, 0x2029), (0x202F, 0x202F), (0x205F, 0x205F), (0x3000, 0x3000)]

/-- White space of every script. -/
def isBlank (c : Char) : Bool :=
  blankRanges.contains c

end Flowchart
