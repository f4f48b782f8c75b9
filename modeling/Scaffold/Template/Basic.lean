import Scaffold.Indent
import Scaffold.Json.Basic
import Scaffold.PageName

/-!
# Templates

A template is a list of pieces: text that stands as it is, values looked up in the data, and calls
of helpers. What a value or a call gives is inserted as it is and not expanded again. A value has
to be in the data; an argument of a call need not.
-/

namespace Scaffold

/-- The way to a value through objects and arrays, and how it was written. -/
structure Path where
  written : String
  keys : List String
  deriving DecidableEq, Repr

/-- The path of one key. -/
def Path.key (key : String) : Path := ⟨key, [key]⟩

inductive Argument where
  | path (path : Path)
  | literal (value : Json)
  deriving Repr

inductive Piece where
  | text (content : String)
  | value (path : Path)
  | call (helper : String) (arguments : List Argument)
  deriving Repr

abbrev Template := List Piece

inductive TemplateError where
  | malformed
  | missingVariable (path : String)
  | unknownHelper (name : String)
  deriving DecidableEq, Repr

def TemplateError.message : TemplateError → String
  | .malformed => "malformed template"
  | .missingVariable path => "Failed to access variable in strict mode Some(\"" ++ path ++ "\")"
  | .unknownHelper name => "Helper not found " ++ name

inductive Helper where
  | pascalCase
  | kebabCase
  | titleCase
  | indent
  deriving DecidableEq, Repr

def Helper.ofName? : String → Option Helper
  | "pascal_case" => some .pascalCase
  | "kebab_case" => some .kebabCase
  | "title_case" => some .titleCase
  | "indent" => some .indent
  | _ => none

/-! ### Values -/

/-- The item of an array that a key of digits names. -/
def itemAt? (items : List Json) (key : String) : Option Json :=
  let digits := key.toList
  if !digits.isEmpty && digits.all Char.isDigit then
    items[digits.foldl (fun n d => 10 * n + (d.toNat - '0'.toNat)) 0]?
  else none

/-- The value at a path. -/
def Json.at? : List String → Json → Option Json
  | [], json => some json
  | key :: keys, json =>
    match json with
    | .obj _ _ => (json.member? key).bind (at? keys)
    | .arr items _ => (itemAt? items key).bind (at? keys)
    | _ => none

mutual

/-- A value as it is inserted. -/
def Json.inserted : Json → List Char
  | .null => []
  | .bool true => "true".toList
  | .bool false => "false".toList
  | .int n => (toString n).toList
  | .float text => text.toList
  | .str text => text.toList
  | .arr items _ => '[' :: (Json.insertedAll items ++ [']'])
  | .obj _ _ => "[object]".toList
  | .gap | .scrap _ _ _ => []

def Json.insertedAll : List Json → List Char
  | [] => []
  | [item] => item.inserted
  | item :: rest => item.inserted ++ ',' :: ' ' :: Json.insertedAll rest

end

def Argument.eval (data : Json) : Argument → Option Json
  | .path p => data.at? p.keys
  | .literal json => some json

/-- The text of an argument; one that is missing or no string counts as empty. -/
def textArgument : Option Json → String
  | some (.str text) => text
  | _ => ""

/-- The width an argument asks for; one that is missing or no natural number counts as four. -/
def widthArgument : Option Json → Nat
  | some (.int (.ofNat n)) => n
  | _ => 4

/-- What a helper makes of its arguments; those it does not take do not count. -/
def Helper.apply (helper : Helper) (arguments : List (Option Json)) : String :=
  let text := textArgument (arguments[0]?.join)
  match helper with
  | .pascalCase => PageName.identifier text
  | .kebabCase => PageName.segment text
  | .titleCase => PageName.title text
  | .indent => Scaffold.indent text (widthArgument (arguments[1]?.join))

/-! ### Rendering -/

def Piece.render (data : Json) : Piece → Except TemplateError (List Char)
  | .text content => .ok content.toList
  | .value p =>
    match data.at? p.keys with
    | some json => .ok json.inserted
    | none => .error (.missingVariable p.written)
  | .call name arguments =>
    match Helper.ofName? name with
    | some helper => .ok (helper.apply (arguments.map (·.eval data))).toList
    | none => .error (.unknownHelper name)

namespace Template

def renderChars (data : Json) : Template → Except TemplateError (List Char)
  | [] => .ok []
  | piece :: rest => do
    let front ← piece.render data
    let back ← renderChars data rest
    return front ++ back

/-- The text of a template with its values inserted, or the first error. -/
def render (template : Template) (data : Json) : Except TemplateError String :=
  String.ofList <$> template.renderChars data

end Template

end Scaffold
