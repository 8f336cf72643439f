import Remap.Text.CodeRanges

/-!
# Blanks

The whitespace of every script: the ASCII controls that move the carriage, the four separator
controls, the next-line control, and the space characters. Zero-width characters are not blank.
-/

namespace Remap.Text

def blankRanges : CodeRanges :=
  [(0x9, 0xD), (0x1C, 0x20), (0x85, 0x85), (0xA0, 0xA0), (0x1680, 0x1680), (0x2000, 0x200A),
    (0x2028, 0x2029), (0x202F, 0x202F), (0x205F, 0x205F), (0x3000, 0x3000)]

def isBlank (c : Char) : Bool := blankRanges.contains c

/-- The text without the blanks at its end. -/
def trimEnd (text : List Char) : List Char := (text.reverse.dropWhile isBlank).reverse

end Remap.Text
