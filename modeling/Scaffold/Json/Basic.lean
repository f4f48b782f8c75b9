/-!
# JSON, as far as a text holds it

A `Json` is what can be made of a text that may end too early or go wrong anywhere. A part that is
no JSON stays in the tree, where it stands, so a reader that walks the tree in order of the text
meets a wrong value and a broken text in the order in which they were written. Values built by the
program itself have no such parts: `ofItems` and `ofMembers` make closed arrays and objects.
-/

namespace Scaffold

/-- A text fails to be JSON because it ends too early or because it goes wrong. -/
inductive Fault where
  | endOfText
  | malformed
  deriving DecidableEq, Repr

/-- Whether the end of a value was reached. -/
inductive Ending where
  | closed
  | broken (fault : Fault)
  deriving DecidableEq, Repr

inductive Json where
  | null
  | bool (value : Bool)
  | int (value : Int)
  /-- A number that is no integer in range, by its shortest decimal text. -/
  | float (text : String)
  | str (text : String)
  | arr (items : List Json) (ending : Ending)
  /-- Any value may stand where the key of a member belongs. -/
  | obj (members : List (Json × Json)) (ending : Ending)
  /-- The text ends before a value starts. -/
  | gap
  /-- A value that starts, with a quote or otherwise, and cannot be read because of `fault`.
  Skipping it asks less of the text than reading it, and ends in `skipped`. -/
  | scrap (quoted : Bool) (fault : Fault) (skipped : Ending)
  deriving Repr

namespace Json

def ofItems (items : List Json) : Json := .arr items .closed

def ofMembers (members : List (String × Json)) : Json :=
  .obj (members.map fun (key, value) => (.str key, value)) .closed

def isKey (key : String) : Json → Bool
  | .str text => text == key
  | _ => false

/-- The value of a member of an object. -/
def member? (key : String) : Json → Option Json
  | .obj members _ => (members.find? fun (k, _) => k.isKey key).map (·.2)
  | _ => none

/-- How skipping what stands in the place of a key ends. -/
def skipKey : Json → Ending
  | .str _ => .closed
  | .gap => .broken .endOfText
  | .scrap true _ skipped => skipped
  | _ => .broken .malformed

mutual

/-- How skipping a value ends: at its close, or at the first place where the text breaks. -/
def skip : Json → Ending
  | .arr items ending => skipItems items ending
  | .obj members ending => skipMembers members ending
  | .gap => .broken .endOfText
  | .scrap _ _ skipped => skipped
  | _ => .closed

def skipItems : List Json → Ending → Ending
  | [], ending => ending
  | item :: rest, ending =>
    match item.skip with
    | .closed => skipItems rest ending
    | broken => broken

def skipMembers : List (Json × Json) → Ending → Ending
  | [], ending => ending
  | (key, value) :: rest, ending =>
    match key.skipKey with
    | .closed =>
      match value.skip with
      | .closed => skipMembers rest ending
      | broken => broken
    | broken => broken

end

end Json

end Scaffold
