import Scaffold.Assembly
import Scaffold.BodyTable
import Scaffold.Request
import Scaffold.Snippet

/-!
# Making files for requests

A generator resolves the names of a request, takes the body of the page from its table and has the
target assemble the file. It reports on its way what happens.
-/

namespace Scaffold

/-! ### What is reported -/

inductive Level where
  | warn
  | debug
  deriving DecidableEq, Repr

inductive Event where
  /-- A placeholder stands for an archetype that is not known. -/
  | archetypeReplaced (name : String)
  /-- The first target stands for one that is not known. -/
  | targetReplaced (name : String)
  | generated (archetype : ArchetypeName) (target : Target) (path : String) (darkMode : Bool)
  | assembled (name : String) (target : Target) (path : String)
  | snippetsReady (count : Nat)
  deriving DecidableEq, Repr

namespace Event

def level : Event → Level
  | archetypeReplaced _ | targetReplaced _ => .warn
  | _ => .debug

def message : Event → String
  | archetypeReplaced _ => "Unknown archetype, using placeholder body"
  | targetReplaced _ => "Unknown target, using react"
  | generated _ _ _ _ => "Synthesized page"
  | assembled _ _ _ => "Assembled markup"
  | snippetsReady _ => "Snippet registry ready"

/-- What is told with the message. -/
def fields : Event → List (String × String)
  | archetypeReplaced name => [("archetype", name)]
  | targetReplaced name => [("framework", name)]
  | generated archetype target path darkMode =>
    [("archetype", archetype.text), ("framework", target.name), ("path", path),
      ("dark_mode", if darkMode then "true" else "false")]
  | assembled name target path => [("name", name), ("framework", target.name), ("path", path)]
  | snippetsReady count => [("corpus_size", toString count)]

end Event

/-! ### Errors and traced results -/

inductive GenerationError where
  | name (error : NameError)
  | template (error : TemplateError)
  deriving DecidableEq, Repr

def GenerationError.message : GenerationError → String
  | .name error => error.message
  | .template error => "Template error: " ++ error.message

/-- A result and the events on the way to it. -/
structure Traced (α : Type) where
  events : List Event
  result : Except GenerationError α

namespace Traced

def ofExcept (result : Except GenerationError α) : Traced α := ⟨[], result⟩

def emit (event : Event) : Traced Unit := ⟨[event], .ok ()⟩

instance : Monad Traced where
  pure a := ⟨[], .ok a⟩
  bind x f :=
    match x.result with
    | .ok a => ⟨x.events ++ (f a).events, (f a).result⟩
    | .error e => ⟨x.events, .error e⟩

end Traced

/-! ### The generator -/

structure Generator where
  bodies : BodyTable
  options : Options
  /-- No archetype lacks a body. -/
  complete : bodies.requireComplete = .ok ()

namespace Generator

/-- A generator over a table of bodies, which has to be complete. -/
def ofTable (bodies : BodyTable) (options : Options) : Except IncompleteTable Generator :=
  match h : bodies.requireComplete with
  | .ok () => .ok ⟨bodies, options, h⟩
  | .error e => .error e

/-- A generator over the standard bodies. -/
def standard (options : Options) : Generator := ⟨.standard, options, rfl⟩

def archetypeFor (g : Generator) (name : String) : Traced ArchetypeName :=
  match ArchetypeName.parse name with
  | .known a => pure (.known a)
  | .unknown text =>
    match g.options.fallback with
    | .strict => .ofExcept (.error (.name (.unknownArchetype name)))
    | .lenient => do
      Traced.emit (.archetypeReplaced name)
      return .unknown text

def targetFor (g : Generator) (name : String) : Traced Target :=
  match Target.parse name with
  | .ok t => pure t
  | .error e =>
    match g.options.fallback with
    | .strict => .ofExcept (.error (.name e))
    | .lenient => do
      Traced.emit (.targetReplaced name)
      return .react

def assemble (g : Generator) (target : Target) (name : String) (body : Body) (look : Look)
    (design : Design) : Traced File :=
  let setting : Setting := ⟨look.appName, look.darkMode, design, g.options.typescript⟩
  .ofExcept ((target.assemble ⟨name, body⟩ setting).mapError .template)

/-- The file of a page whose archetype and target are resolved. -/
def pageFile (g : Generator) (archetype : ArchetypeName) (target : Target)
    (look : Look) (design : Design) : Traced File := do
  let body := Body.tree (g.bodies.body archetype look)
  let file ← g.assemble target archetype.text body look design
  Traced.emit (.generated archetype target file.path look.darkMode)
  return file

/-- The file of a markup text in the neutral dialect. -/
def markupFile (g : Generator) (target : Target) (name markup : String) (look : Look)
    (design : Design) : Traced File := do
  let file ← g.assemble target name (.markup markup) look design
  Traced.emit (.assembled name target file.path)
  return file

/-- The files of a request: one, unless a name is refused. The archetype is resolved first. -/
def generate (g : Generator) (request : Request) : Traced (List File) := do
  let archetype ← g.archetypeFor request.archetype
  let target ← g.targetFor request.target
  let look : Look := ⟨request.appName, request.darkMode⟩
  let file ← g.pageFile archetype target look request.design
  return [file]

/-- The files of a request and how many snippets were at hand. -/
structure Report where
  files : List File
  corpusSize : Nat
  deriving DecidableEq, Repr

/-- Makes the snippets ready, whatever becomes of the request, before the files are made. -/
def generateWith (g : Generator) (request : Request) (snippets : SnippetStore) :
    SnippetStore × Traced Report :=
  let snippets := snippets.ready
  (snippets, do
    Traced.emit (.snippetsReady snippets.size)
    let files ← g.generate request
    return ⟨files, snippets.size⟩)

/-- The generator as it is shown. -/
def described (g : Generator) : String :=
  "Synthesizer \x7b catalog: " ++ g.bodies.described ++ ", options: " ++ g.options.described ++
    ", .. \x7d"

end Generator

end Scaffold
