import Scaffold.Text.Search
import Scaffold.Text.Space

/-!
# Indenting
-/

namespace Scaffold

/-- A line that is not blank behind `spaces` blanks; a blank line as it is. -/
def indentLine (spaces : Nat) (line : List Char) : List Char :=
  if Text.isBlank line then line else List.replicate spaces ' ' ++ line

/-- Indents the lines of a text. The line end behind the last line is dropped. -/
def indent (content : String) (spaces : Nat) : String :=
  String.ofList (['\n'].intercalate ((Text.lines content.toList).map (indentLine spaces)))

end Scaffold
