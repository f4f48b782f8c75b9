import Scaffold.Json.Basic

/-!
# Writing JSON

The shortest text of a value: no blanks, members in the order they have, and in strings only those
characters escaped that have to be.
-/

namespace Scaffold.Json

/-- A control character has its own letter or is written by its code. -/
def escapeControl (c : Char) : List Char :=
  match c with
  | '\x08' => ['\\', 'b']
  | '\t' => ['\\', 't']
  | '\n' => ['\\', 'n']
  | '\x0c' => ['\\', 'f']
  | '\r' => ['\\', 'r']
  | _ => ['\\', 'u', '0', '0', Nat.digitChar (c.toNat / 16), Nat.digitChar (c.toNat % 16)]

def escapeChar (c : Char) : List Char :=
  if c = '"' then ['\\', '"']
  else if c = '\\' then ['\\', '\\']
  else if c.toNat < 0x20 then escapeControl c
  else [c]

def writeString (text : String) : List Char :=
  '"' :: (text.toList.flatMap escapeChar ++ ['"'])

mutual

/-- The text of a value; nothing is written for a broken part. -/
def write : Json → List Char
  | .null => ['n', 'u', 'l', 'l']
  | .bool true => ['t', 'r', 'u', 'e']
  | .bool false => ['f', 'a', 'l', 's', 'e']
  | .int n => (toString n).toList
  | .float text => text.toList
  | .str text => writeString text
  | .arr items _ => '[' :: (writeItems items ++ [']'])
  | .obj members _ => '\x7b' :: (writeMembers members ++ ['\x7d'])
  | .gap => []
  | .scrap _ _ _ => []

def writeItems : List Json → List Char
  | [] => []
  | [item] => item.write
  | item :: rest => item.write ++ ',' :: writeItems rest

def writeMembers : List (Json × Json) → List Char
  | [] => []
  | [(key, value)] => key.write ++ ':' :: value.write
  | (key, value) :: rest => key.write ++ ':' :: (value.write ++ ',' :: writeMembers rest)

end

def text (value : Json) : String := String.ofList value.write

end Scaffold.Json
