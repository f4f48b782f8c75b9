import Scaffold.Text.Ranges

/-!
# White space

The property White_Space of Unicode: the blanks and line ends of ASCII, the next-line and no-break
spaces, and the typographic spaces and separators. Zero-width characters are not white space.
-/

namespace Scaffold.Text

def whiteSpace : Ranges := [
  (0x9, 0xD), (0x20, 0x20), (0x85, 0x85), (0xA0, 0xA0), (0x1680, 0x1680), (0x2000, 0x200A),
  (0x2028, 0x2029), (0x202F, 0x202F), (0x205F, 0x205F), (0x3000, 0x3000)]

def isSpace (c : Char) : Bool := whiteSpace.has c

def trimStart (cs : List Char) : List Char := cs.dropWhile isSpace

def trimEnd (cs : List Char) : List Char := (cs.reverse.dropWhile isSpace).reverse

def trim (cs : List Char) : List Char := trimEnd (trimStart cs)

/-- Nothing is left of the text once it is trimmed. -/
def isBlank (cs : List Char) : Bool := cs.all isSpace

theorem isBlank_iff {cs : List Char} : isBlank cs = true ↔ ∀ c ∈ cs, isSpace c = true := by
  simp [isBlank]

end Scaffold.Text
