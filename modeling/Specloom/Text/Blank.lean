import Specloom.Text.CodeRange

/-!
# Blanks

The characters that show as empty space, line ends among them.

## Main definitions

* `blankRuns`: the blanks of the Unicode standard
* `isBlank`: whether a character is one
-/

namespace Specloom.Text

/-- The code points of blanks. -/
def blankRuns : List CodeRange :=
  [⟨0x9, 0xd⟩, ⟨0x20, 0x20⟩, ⟨0x85, 0x85⟩, ⟨0xa0, 0xa0⟩, ⟨0x1680, 0x1680⟩, ⟨0x2000, 0x200a⟩,
    ⟨0x2028, 0x2029⟩, ⟨0x202f, 0x202f⟩, ⟨0x205f, 0x205f⟩, ⟨0x3000, 0x3000⟩]

/-- Whether a character is a blank. -/
def isBlank (c : Char) : Bool :=
  CodeRange.anyContains blankRuns c.toNat

/-- Whether a character ends a line. -/
def isLineEnd (c : Char) : Bool :=
  c == '\n' || c == '\r'

end Specloom.Text
