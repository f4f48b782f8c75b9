import Scaffold.Json.Decode
import Scaffold.Text.LetterCase
import Scaffold.Text.Space

/-!
# Page archetypes

The ten kinds of page that have a body of their own, and the names by which callers ask for them.
-/

namespace Scaffold

inductive Archetype where
  | landing
  | dashboard
  | authLogin
  | authSignup
  | pricing
  | settings
  | crudTable
  | blogList
  | onboarding
  | error404
  deriving DecidableEq, Repr

/-- A name or a text in the place of one that stands for nothing known; it is kept as it was
given. -/
inductive NameError where
  | unknownArchetype (name : String)
  | unknownTarget (name : String)
  deriving DecidableEq, Repr

def NameError.message : NameError → String
  | .unknownArchetype name => "unknown archetype: " ++ name
  | .unknownTarget name => "unknown target: " ++ name

namespace Archetype

/-- Every archetype, in the order of `index`. -/
def all : List Archetype :=
  [landing, dashboard, authLogin, authSignup, pricing, settings, crudTable, blogList, onboarding,
    error404]

/-- Position in `all`. -/
def index : Archetype → Fin 10
  | landing => 0
  | dashboard => 1
  | authLogin => 2
  | authSignup => 3
  | pricing => 4
  | settings => 5
  | crudTable => 6
  | blogList => 7
  | onboarding => 8
  | error404 => 9

def name : Archetype → String
  | landing => "landing"
  | dashboard => "dashboard"
  | authLogin => "auth_login"
  | authSignup => "auth_signup"
  | pricing => "pricing"
  | settings => "settings"
  | crudTable => "crud_table"
  | blogList => "blog_list"
  | onboarding => "onboarding"
  | error404 => "error_404"

/-- The name as one capitalised word. -/
def label : Archetype → String
  | landing => "Landing"
  | dashboard => "Dashboard"
  | authLogin => "AuthLogin"
  | authSignup => "AuthSignup"
  | pricing => "Pricing"
  | settings => "Settings"
  | crudTable => "CrudTable"
  | blogList => "BlogList"
  | onboarding => "Onboarding"
  | error404 => "Error404"

theorem mem_all (a : Archetype) : a ∈ all := by
  cases a <;> decide

theorem getElem_index (a : Archetype) : all[a.index] = a := by
  cases a <;> rfl

/-- A name as it is compared: trimmed, in lower case, with underscores for hyphens and spaces. -/
def normalize (name : String) : List Char :=
  (Text.lowercase (Text.trim name.toList)).map fun c => if c = '-' ∨ c = ' ' then '_' else c

/-- The archetype of a name, however its words are joined and whatever its letter case. -/
def ofName? (name : String) : Option Archetype :=
  all.find? fun a => a.name.toList = normalize name

def parse (name : String) : Except NameError Archetype :=
  match ofName? name with
  | some a => .ok a
  | none => .error (.unknownArchetype name)

def toJson (a : Archetype) : Json := .str a.name

/-- In JSON an archetype has its exact name. -/
def ofJson : Source → Json → Except DecodeError Archetype := Json.readPlain all name

end Archetype

/-- An archetype as a caller names it: one of the known ones or a name of its own. -/
inductive ArchetypeName where
  | known (archetype : Archetype)
  | unknown (name : String)
  deriving DecidableEq, Repr

namespace ArchetypeName

/-- Never fails: a name without an archetype stands for itself, trimmed. -/
def parse (name : String) : ArchetypeName :=
  let trimmed := String.ofList (Text.trim name.toList)
  match Archetype.ofName? trimmed with
  | some a => .known a
  | none => .unknown trimmed

/-- The name that identifiers and paths are made from. -/
def text : ArchetypeName → String
  | .known a => a.name
  | .unknown name => name

def known? : ArchetypeName → Option Archetype
  | .known a => some a
  | .unknown _ => none

/-- The name in a form that shows which kind it is. -/
def described : ArchetypeName → String
  | .known a => "Known(" ++ a.label ++ ")"
  | .unknown name => "Unknown(" ++ Text.quoted name ++ ")"

end ArchetypeName

end Scaffold
