import Scaffold.Target
import Scaffold.Text.Search

/-!
# Respelling markup texts

Markup that exists as text only, in the neutral dialect, is put into another dialect keyword by
keyword. The rules run in order, each over what the one before it left.
-/

namespace Scaffold

/-- A keyword of the neutral dialect and what stands for it. -/
structure Rule where
  keyword : String
  spelling : String
  deriving DecidableEq, Repr

def Rule.respell (rule : Rule) (cs : List Char) : List Char :=
  Text.replaceAll rule.keyword.toList rule.spelling.toList cs

def htmlSpellings : List Rule := [
  ⟨"className=", "class="⟩,
  ⟨"htmlFor=", "for="⟩,
  ⟨"\x7b/*", "<!--"⟩,
  ⟨"*/\x7d", "-->"⟩,
  ⟨"strokeWidth=", "stroke-width="⟩,
  ⟨"strokeLinecap=", "stroke-linecap="⟩,
  ⟨"strokeLinejoin=", "stroke-linejoin="⟩]

namespace Dialect

/-- The rules into a dialect. The neutral dialect needs none. -/
def rules : Dialect → List Rule
  | .jsx => []
  | .html => htmlSpellings

/-- Puts a neutral markup text into the dialect. -/
def respell (dialect : Dialect) (markup : String) : String :=
  String.ofList (dialect.rules.foldl (fun cs rule => rule.respell cs) markup.toList)

/-- No text is changed. -/
def isNeutral (dialect : Dialect) : Bool := dialect.rules.isEmpty

end Dialect

end Scaffold
