import Scaffold.Text.Table.CaseMapping
import Scaffold.Text.Table.Cased

/-!
# Letter case

The upper- and lower-case forms of a character, each one or more characters, and of a text. Case
mapping is per character but for one rule: a capital sigma that ends a word is lowered to `ς`.
-/

namespace Scaffold.Text

def upper (c : Char) : List Char := mapCase Table.upperSpecial Table.upperRuns c

def lower (c : Char) : List Char := mapCase Table.lowerSpecial Table.lowerRuns c

def uppercase (cs : List Char) : List Char := cs.flatMap upper

/-- The first character that belongs to the word, past all that does not separate letters, is a
cased one. -/
def startsCased (cs : List Char) : Bool :=
  match cs.dropWhile Table.caseIgnorable.has with
  | c :: _ => Table.cased.has c
  | [] => false

/-- Lower-cases `cs`, where `before` is what stands in front of it, nearest character first: a
sigma is final when it follows a cased character and precedes none. -/
def lowercaseAfter (before : List Char) : List Char → List Char
  | [] => []
  | 'Σ' :: rest =>
    (if startsCased before && !startsCased rest then 'ς' else 'σ') ::
      lowercaseAfter ('Σ' :: before) rest
  | c :: rest => lower c ++ lowercaseAfter (c :: before) rest

def lowercase (cs : List Char) : List Char := lowercaseAfter [] cs

end Scaffold.Text
