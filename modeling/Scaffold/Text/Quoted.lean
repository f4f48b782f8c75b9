import Scaffold.Text.Table.Combining
import Scaffold.Text.Table.Unprintable

/-!
# Quoted text

A text between double quotes in which everything that could not be read off a screen is escaped:
the quote and the backslash, controls, blanks other than the plain space, unassigned characters,
and marks that would join the character before them.
-/

namespace Scaffold.Text

/-- The character by its code point in lower-case hexadecimal digits, without leading zeros. -/
def escapeCodePoint (c : Char) : List Char :=
  '\\' :: 'u' :: '{' :: (Nat.toDigits 16 c.toNat ++ ['}'])

def quoteChar (c : Char) : List Char :=
  match c with
  | '\x00' => ['\\', '0']
  | '\t' => ['\\', 't']
  | '\r' => ['\\', 'r']
  | '\n' => ['\\', 'n']
  | '"' => ['\\', '"']
  | '\\' => ['\\', '\\']
  | _ =>
    if Table.graphemeExtend.has c || Table.unprintable.has c then escapeCodePoint c else [c]

def quoted (text : String) : String :=
  String.ofList ('"' :: (text.toList.flatMap quoteChar ++ ['"']))

end Scaffold.Text
