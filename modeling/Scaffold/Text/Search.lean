/-!
# Replacing and splitting

`replaceAll`, `splitOn` and `lines` on texts as lists of characters. Each is one pass by recursion
on the text.
-/

namespace Scaffold.Text

/-- Skips `skip` characters, then replaces every occurrence of `pattern`, each search starting
behind the occurrence before it. -/
def replaceFrom (pattern replacement : List Char) : Nat → List Char → List Char
  | _, [] => []
  | skip + 1, _ :: rest => replaceFrom pattern replacement skip rest
  | 0, c :: rest =>
    if pattern.isPrefixOf (c :: rest) then
      replacement ++ replaceFrom pattern replacement (pattern.length - 1) rest
    else
      c :: replaceFrom pattern replacement 0 rest

/-- Replaces every occurrence of a non-empty pattern, left to right and without overlap. -/
def replaceAll (pattern replacement cs : List Char) : List Char :=
  replaceFrom pattern replacement 0 cs

/-- The pieces of a text between the characters that satisfy `separates`; there is one piece more
than there are separators. -/
def splitOn (separates : Char → Bool) : List Char → List (List Char)
  | [] => [[]]
  | c :: rest =>
    match splitOn separates rest with
    | piece :: more => if separates c then [] :: piece :: more else (c :: piece) :: more
    | [] => [[c]]

theorem splitOn_ne_nil (separates : Char → Bool) : ∀ cs, splitOn separates cs ≠ []
  | [] => by simp [splitOn]
  | c :: rest => by
    unfold splitOn
    split
    · split <;> simp
    · simp

/-- A line without the one carriage return at its end. -/
def chompReturn (line : List Char) : List Char :=
  if line.getLast? = some '\r' then line.dropLast else line

/-- The lines of a text. A line ends at a line feed, and one carriage return before it is not part
of the line; what follows the last line feed is a line unless it is empty, and keeps its carriage
return. -/
def lines (cs : List Char) : List (List Char) :=
  let pieces := splitOn (· == '\n') cs
  pieces.dropLast.map chompReturn ++ pieces.getLast?.toList.filter (! ·.isEmpty)

end Scaffold.Text
