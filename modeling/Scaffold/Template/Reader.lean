import Scaffold.Json.Reader
import Scaffold.Template.Basic

/-!
# Reading templates

In the text of a template, tags stand between double braces: a path, or the name of a helper and
its arguments. Triple braces and an ampersand behind the braces change nothing, since no value is
escaped. A tilde at the inner side of the braces trims the text next to the tag. A tag that starts
with an exclamation mark is a comment.
-/

namespace Scaffold.Template

/-- A part of the text: raw, or a tag, whose piece is missing if it is a comment. -/
inductive Part where
  | raw (content : List Char)
  | tag (trimsBefore : Bool) (piece : Option Piece) (trimsAfter : Bool)

/-! ### Finding the tags -/

/-- The text up to the next double brace, and what is left behind the braces. -/
def splitRaw : List Char → List Char × Option (List Char)
  | [] => ([], none)
  | '\x7b' :: '\x7b' :: rest => ([], some rest)
  | c :: rest =>
    let (raw, after) := splitRaw rest
    (c :: raw, after)

/-- The text up to `closer`, and what is left behind it. Within quotes nothing closes; `quote` is
the quote that is open. -/
def splitTag (closer : List Char) (quote : Option Char) : List Char → Option (List Char × List Char)
  | [] => none
  | c :: rest =>
    if quote.isNone && closer.isPrefixOf (c :: rest) then
      some ([], (c :: rest).drop closer.length)
    else
      let quote :=
        match quote with
        | some q => if c = q then none else some q
        | none => if c = '"' ∨ c = '\'' then some c else none
      (splitTag closer quote rest).map fun (tag, after) => (c :: tag, after)

/-- The text up to `closer`, wherever it stands, and what is left behind it. -/
def splitComment (closer : List Char) : List Char → Option (List Char)
  | [] => none
  | c :: rest =>
    if closer.isPrefixOf (c :: rest) then some ((c :: rest).drop closer.length)
    else splitComment closer rest

/-! ### The inside of a tag -/

def isTagBlank (c : Char) : Bool := c == ' ' || c == '\t' || c == '\n' || c == '\r'

/-- Characters that a path consists of, brackets apart. -/
def isPathChar (c : Char) : Bool :=
  c.isAlphanum || c == '_' || c == '-' || c == '@' || c == '$' || c == '.' || c == '/' ||
    0x80 ≤ c.toNat

/-- A path at the start of the text, in which brackets hold any key; and what is left. -/
def splitPath (inBrackets : Bool) : List Char → List Char × List Char
  | [] => ([], [])
  | c :: rest =>
    if inBrackets || c == '[' || isPathChar c then
      let (path, after) := splitPath ((inBrackets || c == '[') && c != ']') rest
      (c :: path, after)
    else
      ([], c :: rest)

/-- A key of a path without the brackets around it. -/
def bareKey (key : List Char) : List Char :=
  match key with
  | '[' :: rest => if rest.getLast? = some ']' then rest.dropLast else key
  | _ => key

def Path.ofChars (cs : List Char) : Path :=
  ⟨String.ofList cs,
    (Text.splitOn (fun c => c == '.' || c == '/') cs).map fun key => String.ofList (bareKey key)⟩

/-- An argument at the start of the text, and what is left. -/
def readArgument (cs : List Char) : Option (Argument × List Char) :=
  match cs with
  | '"' :: rest =>
    match Json.readString rest with
    | (.str text, rest) => some (.literal (.str text), rest)
    | _ => none
  | '\'' :: rest =>
    let text := rest.takeWhile (· ≠ '\'')
    match rest.drop text.length with
    | _ :: rest => some (.literal (.str (String.ofList text)), rest)
    | [] => none
  | _ =>
    let (word, rest) := splitPath false cs
    if word.isEmpty then none
    else
      match Json.readValue (2 * word.length + 2) word with
      | (.scrap _ _ _, _) | (.gap, _) => some (.path (Path.ofChars word), rest)
      | (value, []) => some (.literal value, rest)
      | _ => some (.path (Path.ofChars word), rest)

/-- The arguments of a call. The first number bounds how many there are. -/
def readArguments : Nat → List Char → Option (List Argument)
  | 0, _ => none
  | n + 1, cs =>
    match cs.dropWhile isTagBlank with
    | [] => some []
    | c :: rest => do
      let (argument, rest) ← readArgument (c :: rest)
      let arguments ← readArguments n rest
      return argument :: arguments

/-- The piece of a tag: a call if it has arguments or a helper's name, a value otherwise. A slash
in front would close a block, and there are none. -/
def readPiece (cs : List Char) : Option Piece := do
  let (head, rest) := splitPath false (cs.dropWhile isTagBlank)
  guard (!head.isEmpty && head.head? != some '/')
  let arguments ← readArguments (rest.length + 1) rest
  let name := String.ofList head
  if arguments.isEmpty && (Helper.ofName? name).isNone then
    return .value (Path.ofChars head)
  else
    return .call name arguments

/-- A tag by what stands between its braces. -/
def readTag (cs : List Char) : Option Part := do
  let (trimsBefore, cs) :=
    match cs with
    | '~' :: rest => (true, rest)
    | _ => (false, cs)
  let cs :=
    match cs with
    | '&' :: rest => rest
    | _ => cs
  let (trimsAfter, cs) :=
    if cs.getLast? = some '~' then (true, cs.dropLast) else (false, cs)
  let piece ← readPiece cs
  return .tag trimsBefore (some piece) trimsAfter

/-! ### The whole text -/

/-- What is left behind a comment, which starts behind its exclamation mark. One that starts with
two hyphens goes on to the next two before braces, if there are any. -/
def skipComment (cs : List Char) : Option (List Char) :=
  match cs with
  | '-' :: '-' :: rest =>
    splitComment ['-', '-', '\x7d', '\x7d'] rest <|> splitComment ['\x7d', '\x7d'] cs
  | _ => splitComment ['\x7d', '\x7d'] cs

/-- The tag at the start of the text, behind its first two braces, and what is left. -/
def readPart (cs : List Char) : Option (Part × List Char) :=
  match cs with
  | '!' :: rest => (skipComment rest).map (.tag false none false, ·)
  | '\x7b' :: rest => do
    let (tag, rest) ← splitTag ['\x7d', '\x7d', '\x7d'] none rest
    return (← readTag tag, rest)
  | _ => do
    let (tag, rest) ← splitTag ['\x7d', '\x7d'] none cs
    return (← readTag tag, rest)

/-- The parts of a text, of which the first number bounds the count of tags. -/
def readParts : Nat → List Char → Option (List Part)
  | 0, _ => none
  | n + 1, cs =>
    match splitRaw cs with
    | (raw, none) => some [.raw raw]
    | (raw, some rest) => do
      let (part, rest) ← readPart rest
      let parts ← readParts n rest
      return .raw raw :: part :: parts

/-- The pieces of the parts, with the text between tags trimmed as the tags ask. -/
def pieces (trimStart : Bool) : List Part → Template
  | [] => []
  | .raw cs :: rest =>
    let cs := if trimStart then Text.trimStart cs else cs
    let trimEnd :=
      match rest with
      | .tag trimsBefore _ _ :: _ => trimsBefore
      | _ => false
    let cs := if trimEnd then Text.trimEnd cs else cs
    .text (String.ofList cs) :: pieces false rest
  | .tag _ piece trimsAfter :: rest => piece.toList ++ pieces trimsAfter rest

/-- The template of a text. -/
def ofText (text : String) : Except TemplateError Template :=
  match readParts (text.length + 1) text.toList with
  | some parts => .ok (pieces false parts)
  | none => .error .malformed

end Scaffold.Template
