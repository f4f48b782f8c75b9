import Scaffold.Archetype

/-!
# Output targets

The ecosystems that files are made for, and the two dialects of markup their templates are written
in.
-/

namespace Scaffold

/-- How markup is spelled. -/
inductive Dialect where
  /-- Camel-case attribute keywords and comments in braces; also the neutral form of markup texts.
  -/
  | jsx
  | html
  deriving DecidableEq, Repr

def Dialect.label : Dialect → String
  | .jsx => "Jsx"
  | .html => "Html"

inductive Target where
  | react
  | nextjs
  | vue
  | angular
  | svelte
  | html
  deriving DecidableEq, Repr

namespace Target

def all : List Target := [react, nextjs, vue, angular, svelte, html]

theorem mem_all (t : Target) : t ∈ all := by
  cases t <;> decide

def name : Target → String
  | react => "react"
  | nextjs => "nextjs"
  | vue => "vue"
  | angular => "angular"
  | svelte => "svelte"
  | html => "html"

/-- The name as one capitalised word. -/
def label : Target → String
  | react => "React"
  | nextjs => "Nextjs"
  | vue => "Vue"
  | angular => "Angular"
  | svelte => "Svelte"
  | html => "Html"

/-- Other names that are accepted. -/
def aliases : Target → List String
  | nextjs => ["next", "next.js"]
  | _ => []

/-- The extension of a file with types. -/
def extension : Target → String
  | react | nextjs => "tsx"
  | vue => "vue"
  | angular => "component.ts"
  | svelte => "svelte"
  | html => "html"

def dialect : Target → Dialect
  | react | nextjs => .jsx
  | vue | angular | svelte | html => .html

/-- The target of a name, whatever its letter case and the white space around it. -/
def ofName? (name : String) : Option Target :=
  let normal := Text.lowercase (Text.trim name.toList)
  all.find? fun t => (t.name :: t.aliases).any (·.toList = normal)

def parse (name : String) : Except NameError Target :=
  match ofName? name with
  | some t => .ok t
  | none => .error (.unknownTarget name)

def toJson (t : Target) : Json := .str t.name

/-- In JSON a target has its exact name. -/
def ofJson : Source → Json → Except DecodeError Target := Json.readPlain all name

end Target

end Scaffold
