import Scaffold.Json.Number

/-!
# Reading a text as JSON

`Document.ofText` never fails: what is no JSON becomes a broken part of the tree. Every reader
takes what is left of the text and gives a value with what is left behind it.
-/

namespace Scaffold

namespace Json

def isBlank (c : Char) : Bool := c == ' ' || c == '\n' || c == '\t' || c == '\r'

def skipBlanks (cs : List Char) : List Char := cs.dropWhile isBlank

/-- A value that is no JSON, read or skipped. -/
def bad (fault : Fault) : Json := .scrap false fault (.broken fault)

/-! ### Words -/

/-- The rest of a literal, `value` if all of it is there. -/
def readWord (value : Json) : List Char → List Char → Json × List Char
  | [], cs => (value, cs)
  | _ :: _, [] => (bad .endOfText, [])
  | w :: word, c :: cs => if w = c then readWord value word cs else (bad .malformed, c :: cs)

/-! ### Numbers -/

/-- The exponent behind its mark: a sign that may be missing and at least one digit. -/
def readExponent (cs : List Char) : Except Fault Int × List Char :=
  let (negative, cs) : Bool × List Char :=
    match cs with
    | '-' :: rest => (true, rest)
    | '+' :: rest => (false, rest)
    | _ => (false, cs)
  match cs with
  | [] => (.error .endOfText, [])
  | c :: _ =>
    if c.isDigit then
      let size : Int := digitsValue (cs.takeWhile Char.isDigit)
      (.ok (if negative then -size else size), cs.dropWhile Char.isDigit)
    else
      (.error .malformed, cs)

/-- The digits behind the point, at least one. -/
def readFraction (cs : List Char) : Except Fault (List Char) × List Char :=
  match cs with
  | [] => (.error .endOfText, [])
  | c :: _ =>
    if c.isDigit then (.ok (cs.takeWhile Char.isDigit), cs.dropWhile Char.isDigit)
    else (.error .malformed, cs)

/-- A number that the text cuts off. Where nothing is read from it, the cut counts as a mistake. -/
def brokenNumber (fault : Fault) : Json := .scrap false fault (.broken .malformed)

/-- What follows the digits before the point. -/
def readNumberTail (negative : Bool) (whole : List Char) (cs : List Char) : Json × List Char :=
  let exponentOf (fraction : Option (List Char)) (cs : List Char) : Json × List Char :=
    match readExponent cs with
    | (.ok e, rest) => (NumberParts.toJson ⟨negative, whole, fraction, some e⟩, rest)
    | (.error fault, rest) => (brokenNumber fault, rest)
  match cs with
  | '.' :: rest =>
    match readFraction rest with
    | (.error fault, rest) => (brokenNumber fault, rest)
    | (.ok fraction, 'e' :: rest) | (.ok fraction, 'E' :: rest) => exponentOf (some fraction) rest
    | (.ok fraction, rest) => (NumberParts.toJson ⟨negative, whole, some fraction, none⟩, rest)
  | 'e' :: rest | 'E' :: rest => exponentOf none rest
  | _ => (NumberParts.toJson ⟨negative, whole, none, none⟩, cs)

/-- A number behind its sign. No digit stands before or behind a leading zero. -/
def readNumber (negative : Bool) (cs : List Char) : Json × List Char :=
  match cs with
  | [] => (brokenNumber .endOfText, [])
  | '0' :: d :: rest =>
    if d.isDigit then (bad .malformed, d :: rest) else readNumberTail negative ['0'] (d :: rest)
  | c :: _ =>
    if c.isDigit then
      readNumberTail negative (cs.takeWhile Char.isDigit) (cs.dropWhile Char.isDigit)
    else
      (bad .malformed, cs)

/-! ### Strings -/

/-- A character of a string as written, or one 16-bit unit written as an escape. -/
inductive StringPiece where
  | char (c : Char)
  | unit (code : Nat)

def escaped? : Char → Option Char
  | '"' => some '"'
  | '\\' => some '\\'
  | '/' => some '/'
  | 'b' => some '\x08'
  | 'f' => some '\x0c'
  | 'n' => some '\n'
  | 'r' => some '\r'
  | 't' => some '\t'
  | _ => none

def hexDigit? (c : Char) : Option Nat :=
  if c.isDigit then some (c.toNat - '0'.toNat)
  else if 'a' ≤ c ∧ c ≤ 'f' then some (c.toNat - 'a'.toNat + 10)
  else if 'A' ≤ c ∧ c ≤ 'F' then some (c.toNat - 'A'.toNat + 10)
  else none

def hexUnit? (a b c d : Char) : Option Nat := do
  return 4096 * (← hexDigit? a) + 256 * (← hexDigit? b) + 16 * (← hexDigit? c) + (← hexDigit? d)

/-- Where an escape needs four digits, four bytes of text have to be left. -/
def shortEscape (cs : List Char) : Fault :=
  if cs.foldl (fun size c => size + c.utf8Size) 0 < 4 then .endOfText else .malformed

/-- The pieces of a string up to its closing quote, or up to where the text breaks. -/
def scanString : List Char → List StringPiece × Ending × List Char
  | [] => ([], .broken .endOfText, [])
  | c :: cs =>
    if c = '"' then ([], .closed, cs)
    else if c = '\\' then
      match cs with
      | [] => ([], .broken .endOfText, [])
      | 'u' :: a :: b :: c :: d :: rest =>
        match hexUnit? a b c d with
        | some code =>
          let (pieces, ending, rest) := scanString rest
          (.unit code :: pieces, ending, rest)
        | none => ([], .broken .malformed, rest)
      | 'u' :: rest => ([], .broken (shortEscape rest), [])
      | e :: rest =>
        match escaped? e with
        | some plain =>
          let (pieces, ending, rest) := scanString rest
          (.char plain :: pieces, ending, rest)
        | none => ([], .broken .malformed, rest)
    else if c.toNat < 0x20 then ([], .broken .malformed, cs)
    else
      let (pieces, ending, rest) := scanString cs
      (.char c :: pieces, ending, rest)

def isLeadUnit (code : Nat) : Bool := 0xD800 ≤ code && code ≤ 0xDBFF

def isTrailUnit (code : Nat) : Bool := 0xDC00 ≤ code && code ≤ 0xDFFF

/-- The text of the pieces: two units that make up one character are joined, and a unit that lacks
its other half cannot be read. -/
def joinPieces (ending : Ending) : List StringPiece → Except Fault (List Char)
  | [] =>
    match ending with
    | .closed => .ok []
    | .broken fault => .error fault
  | .char c :: rest => (c :: ·) <$> joinPieces ending rest
  | .unit code :: rest =>
    if isTrailUnit code then .error .malformed
    else if isLeadUnit code then
      match rest with
      | .unit trail :: rest =>
        if isTrailUnit trail then
          (Char.ofNat (0x10000 + 1024 * (code - 0xD800) + (trail - 0xDC00)) :: ·) <$>
            joinPieces ending rest
        else .error .malformed
      | .char _ :: _ => .error .malformed
      | [] =>
        match ending with
        | .closed => .error .malformed
        | .broken fault => .error fault
    else (Char.ofNat code :: ·) <$> joinPieces ending rest

/-- A string behind its opening quote. -/
def readString (cs : List Char) : Json × List Char :=
  let (pieces, ending, rest) := scanString cs
  match joinPieces ending pieces with
  | .ok text => (.str (String.ofList text), rest)
  | .error fault => (.scrap true fault ending, rest)

/-! ### Values -/

mutual

/-- A value. The first argument bounds the number of steps; twice the length of the text is enough,
since every other step takes a character off it. -/
def readValue : Nat → List Char → Json × List Char
  | 0, cs => (bad .malformed, cs)
  | steps + 1, cs =>
    match skipBlanks cs with
    | [] => (.gap, [])
    | '"' :: rest => readString rest
    | '[' :: rest =>
      let (items, ending, rest) := readItems steps true rest
      (.arr items ending, rest)
    | '{' :: rest =>
      let (members, ending, rest) := readMembers steps true rest
      (.obj members ending, rest)
    | '-' :: rest => readNumber true rest
    | 'n' :: rest => readWord .null ['u', 'l', 'l'] rest
    | 't' :: rest => readWord (.bool true) ['r', 'u', 'e'] rest
    | 'f' :: rest => readWord (.bool false) ['a', 'l', 's', 'e'] rest
    | c :: rest => if c.isDigit then readNumber false (c :: rest) else (bad .malformed, c :: rest)

/-- The items of an array behind its bracket or, unless `first`, behind an item. A comma is
followed by an item. -/
def readItems : Nat → Bool → List Char → List Json × Ending × List Char
  | 0, _, cs => ([], .broken .malformed, cs)
  | steps + 1, first, cs =>
    let itemAt (cs : List Char) : List Json × Ending × List Char :=
      let (item, rest) := readValue steps cs
      let (items, ending, rest) := readItems steps false rest
      (item :: items, ending, rest)
    match skipBlanks cs with
    | [] => ([], .broken .endOfText, [])
    | ']' :: rest => ([], .closed, rest)
    | c :: rest =>
      if first then itemAt (c :: rest)
      else if c = ',' then itemAt rest
      else ([], .broken .malformed, c :: rest)

/-- The members of an object behind its brace or, unless `first`, behind a member. A comma is
followed by a member, and a key by a colon. -/
def readMembers : Nat → Bool → List Char → List (Json × Json) × Ending × List Char
  | 0, _, cs => ([], .broken .malformed, cs)
  | steps + 1, first, cs =>
    let memberAt (cs : List Char) : List (Json × Json) × Ending × List Char :=
      let (key, rest) := readValue steps cs
      let (value, rest) :=
        match skipBlanks rest with
        | [] => (.gap, [])
        | c :: rest => if c = ':' then readValue steps rest else (bad .malformed, c :: rest)
      let (members, ending, rest) := readMembers steps false rest
      ((key, value) :: members, ending, rest)
    match skipBlanks cs with
    | [] => ([], .broken .endOfText, [])
    | '}' :: rest => ([], .closed, rest)
    | c :: rest =>
      if first then memberAt (c :: rest)
      else if c = ',' then memberAt rest
      else ([], .broken .malformed, c :: rest)

end

end Json

/-- A text as one value and whether more than blanks is left behind it. -/
structure Document where
  value : Json
  surplus : Bool

def Document.ofText (text : String) : Document :=
  let cs := text.toList
  let (value, rest) := Json.readValue (2 * cs.length + 2) cs
  ⟨value, !(Json.skipBlanks rest).isEmpty⟩

end Scaffold
