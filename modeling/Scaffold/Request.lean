import Scaffold.Design
import Scaffold.Page.Look

/-!
# Requests and options

A request names an archetype and a target as its caller wrote them; options say what becomes of
names that stand for nothing known.
-/

namespace Scaffold

structure Request where
  archetype : String
  target : String
  darkMode : Bool := false
  appName : String := unnamedApp
  design : Design := {}
  deriving DecidableEq, Repr

/-- What an unknown name leads to: a substitute or an error. -/
inductive Fallback where
  | lenient
  | strict
  deriving DecidableEq, Repr

structure Options where
  fallback : Fallback := .lenient
  /-- Files with types where the target offers a choice. -/
  typescript : Bool := true
  deriving DecidableEq, Repr

/-! ### JSON -/

namespace Fallback

def all : List Fallback := [lenient, strict]

def name : Fallback → String
  | lenient => "lenient"
  | strict => "strict"

/-- The name as one capitalised word. -/
def label : Fallback → String
  | lenient => "Lenient"
  | strict => "Strict"

def toJson (f : Fallback) : Json := .str f.name

def ofJson : Source → Json → Except DecodeError Fallback := Json.readPlain all name

end Fallback

namespace Options

def toJson (o : Options) : Json :=
  .ofMembers [("fallback", o.fallback.toJson), ("typescript", .bool o.typescript)]

/-- What has been read of options. -/
structure Partial where
  fallback : Option Fallback := none
  typescript : Option Bool := none

def form : Form Partial Options where
  name := "SynthesisOptions"
  fields := [
    { key := "fallback", isFilled := (·.fallback.isSome)
      fill := fun source json read =>
        return { read with fallback := some (← Fallback.ofJson source json) } },
    { key := "typescript", isFilled := (·.typescript.isSome)
      fill := fun _ json read => return { read with typescript := some (← json.readBool) } }]
  least := 0
  blank := {}
  finish := fun read => .ok {
    fallback := read.fallback.getD ({} : Options).fallback
    typescript := read.typescript.getD ({} : Options).typescript }

def ofJson : Source → Json → Except DecodeError Options := form.read

/-- The options as they are shown. -/
def described (o : Options) : String :=
  "SynthesisOptions \x7b fallback: " ++ o.fallback.label ++ ", typescript: " ++
    (if o.typescript then "true" else "false") ++ " \x7d"

end Options

namespace Request

def toJson (r : Request) : Json :=
  .ofMembers [
    ("archetype", .str r.archetype),
    ("target", .str r.target),
    ("darkMode", .bool r.darkMode),
    ("appName", .str r.appName),
    ("design", r.design.toJson)]

/-- What has been read of a request. -/
structure Partial where
  archetype : Option String := none
  target : Option String := none
  darkMode : Option Bool := none
  appName : Option String := none
  design : Option Design := none

/-- Archetype and target have to be there; the name and the design have two keys each. -/
def form : Form Partial Request where
  name := "SynthesisRequest"
  fields := [
    { key := "archetype", isFilled := (·.archetype.isSome)
      fill := fun _ json read => return { read with archetype := some (← json.readStr) } },
    { key := "target", isFilled := (·.target.isSome)
      fill := fun _ json read => return { read with target := some (← json.readStr) } },
    { key := "darkMode", isFilled := (·.darkMode.isSome)
      fill := fun _ json read => return { read with darkMode := some (← json.readBool) } },
    { key := "appName", otherKey := some "applicationName", isFilled := (·.appName.isSome)
      fill := fun _ json read => return { read with appName := some (← json.readStr) } },
    { key := "design", otherKey := some "designContext", isFilled := (·.design.isSome)
      fill := fun source json read =>
        return { read with design := some (← Design.ofJson source json) } }]
  least := 2
  blank := {}
  finish := fun read =>
    match read.archetype, read.target with
    | none, _ => .error (.missingField "archetype")
    | _, none => .error (.missingField "target")
    | some archetype, some target => .ok {
        archetype, target
        darkMode := read.darkMode.getD false
        appName := read.appName.getD unnamedApp
        design := read.design.getD {} }

def ofJson : Source → Json → Except DecodeError Request := form.read

/-- Reads a request from a JSON text. -/
def ofText (text : String) : Except DecodeError Request := (Document.ofText text).read ofJson

/-- The message of a text that is no request. -/
def errorMessage? (e : DecodeError) : Option String := e.message?.map ("JSON error: " ++ ·)

end Request

end Scaffold
