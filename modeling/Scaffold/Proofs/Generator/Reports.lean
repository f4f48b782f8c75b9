import Scaffold.Proofs.Generator.Policies

/-!
# What a generator reports

Of a sequence of steps each reports behind the one before it, and a step that fails is the last one
that does (`Traced.log_bind_of_ok`, `Traced.log_bind_of_error`). So the reports on a request are
those on its two names, which only a lenient generator makes, and then the one on its file.
-/

namespace Scaffold

/-- An event as it is told. -/
structure Entry where
  level : Level
  message : String
  fields : List (String × String)
  deriving DecidableEq, Repr

def Event.entry (event : Event) : Entry := ⟨event.level, event.message, event.fields⟩

namespace Traced

variable {α β : Type}

def log (x : Traced α) : List Entry := x.events.map Event.entry

@[simp] theorem log_pure (a : α) : (pure a : Traced α).log = [] := rfl

@[simp] theorem log_ofExcept (result : Except GenerationError α) : (ofExcept result).log = [] := rfl

theorem log_bind_of_ok {x : Traced α} {a : α} (h : x.result = .ok a) (f : α → Traced β) :
    (x >>= f).log = x.log ++ (f a).log := by
  simp only [log, bind, h, List.map_append]

theorem log_bind_of_error {x : Traced α} {e : GenerationError} (h : x.result = .error e)
    (f : α → Traced β) : (x >>= f).log = x.log := by
  simp only [log, bind, h]

end Traced

/-! ### What there is to tell -/

/-- The warning that an archetype is not known. -/
def archetypeWarnings (name : String) : List Entry :=
  match Archetype.parse name with
  | .ok _ => []
  | .error _ => [⟨.warn, "Unknown archetype, using placeholder body", [("archetype", name)]⟩]

/-- The warning that a target is not known. -/
def targetWarnings (name : String) : List Entry :=
  match Target.parse name with
  | .ok _ => []
  | .error _ => [⟨.warn, "Unknown target, using react", [("framework", name)]⟩]

/-- The file of a page, and what it was made of. -/
def pageEntry (archetype : ArchetypeName) (target : Target) (path : String) (darkMode : Bool) :
    Entry :=
  ⟨.debug, "Synthesized page", [("archetype", archetype.text), ("framework", target.name),
    ("path", path), ("dark_mode", if darkMode then "true" else "false")]⟩

def markupEntry (name : String) (target : Target) (path : String) : Entry :=
  ⟨.debug, "Assembled markup", [("name", name), ("framework", target.name), ("path", path)]⟩

def snippetsEntry (count : Nat) : Entry :=
  ⟨.debug, "Snippet registry ready", [("corpus_size", toString count)]⟩

namespace Generator

variable (g : Generator)

/-! ### Names -/

section Names

variable {g}

theorem log_archetypeFor_of_strict (hstrict : g.options.fallback = .strict) (name : String) :
    (g.archetypeFor name).log = [] := by
  unfold archetypeFor
  split
  · exact Traced.log_pure _
  · rw [hstrict]
    exact Traced.log_ofExcept _

theorem log_targetFor_of_strict (hstrict : g.options.fallback = .strict) (name : String) :
    (g.targetFor name).log = [] := by
  unfold targetFor
  split
  · exact Traced.log_pure _
  · rw [hstrict]
    exact Traced.log_ofExcept _

/-- The warning has the name as it was given, not as it was looked up. -/
theorem log_archetypeFor_of_lenient (hlenient : g.options.fallback = .lenient) (name : String) :
    (g.archetypeFor name).log = archetypeWarnings name := by
  unfold archetypeWarnings
  split
  · next a ha =>
    rw [g.archetypeFor_of_parse ha]
    exact Traced.log_pure _
  · next e he =>
    have hunknown : ∀ a, Archetype.parse name ≠ .ok a := by
      intro a ha
      rw [he] at ha
      cases ha
    simp only [archetypeFor, ArchetypeName.parse_of_ne_ok hunknown, hlenient]
    rfl

theorem log_targetFor_of_lenient (hlenient : g.options.fallback = .lenient) (name : String) :
    (g.targetFor name).log = targetWarnings name := by
  unfold targetWarnings targetFor
  cases Target.parse name with
  | ok t => exact Traced.log_pure t
  | error e =>
    rw [hlenient]
    rfl

end Names

/-! ### Files -/

theorem log_pageFile {archetype : ArchetypeName} {target : Target} {look : Look} {design : Design}
    {file : File} (h : (g.pageFile archetype target look design).result = .ok file) :
    (g.pageFile archetype target look design).log =
      [pageEntry archetype target file.path look.darkMode] := by
  have hassemble : (g.assemble target archetype.text (.tree (g.bodies.body archetype look)) look
      design).result = .ok file := by
    rw [result_pageFile_eq_ok] at h
    exact Traced.result_ofExcept_mapError_eq_ok.mpr h
  rw [pageFile, Traced.log_bind_of_ok hassemble, Traced.log_bind_of_ok (Traced.result_emit _)]
  rfl

theorem log_markupFile {target : Target} {name markup : String} {look : Look} {design : Design}
    {file : File} (h : (g.markupFile target name markup look design).result = .ok file) :
    (g.markupFile target name markup look design).log = [markupEntry name target file.path] := by
  have hassemble : (g.assemble target name (.markup markup) look design).result = .ok file := by
    rw [result_markupFile_eq_ok] at h
    exact Traced.result_ofExcept_mapError_eq_ok.mpr h
  rw [markupFile, Traced.log_bind_of_ok hassemble, Traced.log_bind_of_ok (Traced.result_emit _)]
  rfl

/-! ### Requests -/

section Requests

variable (request : Request)

/-- What is reported of a request whose names are resolved. -/
theorem log_generate_of_ok {target : Target} {file : File}
    (harchetype : (g.archetypeFor request.archetype).result = .ok (.parse request.archetype))
    (htarget : (g.targetFor request.target).result = .ok target)
    (hfile : (g.pageFile (.parse request.archetype) target ⟨request.appName, request.darkMode⟩
      request.design).result = .ok file) :
    (g.generate request).log =
      (g.archetypeFor request.archetype).log ++ (g.targetFor request.target).log ++
        [pageEntry (.parse request.archetype) target file.path request.darkMode] := by
  rw [generate, Traced.log_bind_of_ok harchetype, Traced.log_bind_of_ok htarget,
    Traced.log_bind_of_ok hfile, Traced.log_pure, List.append_nil, g.log_pageFile hfile,
    List.append_assoc]

/-- A request is refused for one of its names, before there is anything to report. -/
theorem log_generate_of_error (hstrict : g.options.fallback = .strict) {e : GenerationError}
    (h : (g.generate request).result = .error e) : (g.generate request).log = [] := by
  have harchetypes := log_archetypeFor_of_strict hstrict request.archetype
  have htargets := log_targetFor_of_strict hstrict request.target
  cases harchetype : (g.archetypeFor request.archetype).result with
  | error e => rw [generate, Traced.log_bind_of_error harchetype, harchetypes]
  | ok archetype =>
    rw [generate, Traced.log_bind_of_ok harchetype, harchetypes, List.nil_append]
    cases htarget : (g.targetFor request.target).result with
    | error e => rw [Traced.log_bind_of_error htarget, htargets]
    | ok target =>
      rw [g.eq_parse_of_archetypeFor harchetype] at harchetype
      obtain ⟨file, hresult, -⟩ := g.exists_generate request harchetype htarget
      rw [hresult] at h
      cases h

theorem log_generateWith (store : SnippetStore) :
    (g.generateWith request store).2.log =
      snippetsEntry store.ready.size :: (g.generate request).log := by
  have hfirst : (Traced.emit (.snippetsReady store.ready.size)).log =
      [snippetsEntry store.ready.size] := rfl
  rw [generateWith, Traced.log_bind_of_ok (Traced.result_emit _), hfirst, List.singleton_append]
  cases hresult : (g.generate request).result with
  | error e => rw [Traced.log_bind_of_error hresult]
  | ok files => rw [Traced.log_bind_of_ok hresult, Traced.log_pure, List.append_nil]

end Requests

/-- What is reported of requests and markup texts. A lenient generator warns of each name that is
not known, as it was given, and then tells of the file it made. A strict one never warns: it tells
of the file, and nothing of a request that it refuses. Where there are snippets, their number comes
first, whatever becomes of the request. -/
theorem generate_log (g : Generator) (request : Request) :
    let archetype := ArchetypeName.parse request.archetype
    let look : Look := ⟨request.appName, request.darkMode⟩
    let made (target : Target) (file : File) : Prop :=
      (g.targetFor request.target).result = .ok target ∧
      target.assemble ⟨archetype.text, .tree (g.bodies.body archetype look)⟩
        (g.setting look request.design) = .ok file
    (g.options.fallback = .lenient →
      ∃ target file, (g.generate request).result = .ok [file] ∧ made target file ∧
        (g.generate request).log =
          archetypeWarnings request.archetype ++ targetWarnings request.target ++
            [pageEntry archetype target file.path request.darkMode]) ∧
    (g.options.fallback = .strict →
      (∀ files, (g.generate request).result = .ok files →
        ∃ target file, files = [file] ∧ made target file ∧
          (g.generate request).log = [pageEntry archetype target file.path request.darkMode]) ∧
      ∀ e, (g.generate request).result = .error e → (g.generate request).log = []) ∧
    (∀ store : SnippetStore,
      (g.generateWith request store).1 = store.ready ∧
      (g.generateWith request store).2.log =
        snippetsEntry store.ready.size :: (g.generate request).log) ∧
    ∀ (target : Target) (name markup : String) (look : Look) (design : Design),
      ∃ file, (g.markupFile target name markup look design).result = .ok file ∧
        (g.markupFile target name markup look design).log =
          [markupEntry name target file.path] := by
  intro archetype look made
  refine ⟨?_, ?_, ?_, ?_⟩
  · intro hlenient
    obtain ⟨target, file, htarget, hresult, hfile⟩ :=
      g.exists_generate_of_lenient request hlenient
    have hlog := g.log_generate_of_ok request (g.result_archetypeFor (.inl hlenient)) htarget hfile
    rw [log_archetypeFor_of_lenient hlenient, log_targetFor_of_lenient hlenient] at hlog
    exact ⟨target, file, hresult, ⟨htarget, g.result_pageFile_eq_ok.mp hfile⟩, hlog⟩
  · intro hstrict
    refine ⟨?_, fun e he => g.log_generate_of_error request hstrict he⟩
    intro files hfiles
    obtain ⟨target, file, harchetype, htarget, hfile, rfl⟩ := g.result_generate_eq_ok.mp hfiles
    have hlog := g.log_generate_of_ok request harchetype htarget hfile
    rw [log_archetypeFor_of_strict hstrict, log_targetFor_of_strict hstrict] at hlog
    exact ⟨target, file, rfl, ⟨htarget, g.result_pageFile_eq_ok.mp hfile⟩, hlog⟩
  · exact fun store => ⟨rfl, g.log_generateWith request store⟩
  · intro target name markup look design
    obtain ⟨file, hfile⟩ := g.exists_markupFile target name markup look design
    exact ⟨file, hfile, g.log_markupFile hfile⟩

/-- Two names that are not known, before a lenient and before a strict generator with a snippet at
hand. -/
theorem generate_log_posts :
    let lenient := Generator.standard {}
    let strict := Generator.standard { fallback := .strict }
    let request : Request := ⟨" Blog-Posts ", "Solid", true, "Acme", {}⟩
    let store := SnippetStore.ofPending [⟨"hero", "marketing", [], "<p>1</p>"⟩]
    (∃ file, (lenient.generate request).result = .ok [file] ∧
      (lenient.generate request).log = [
        ⟨.warn, "Unknown archetype, using placeholder body", [("archetype", " Blog-Posts ")]⟩,
        ⟨.warn, "Unknown target, using react", [("framework", "Solid")]⟩,
        ⟨.debug, "Synthesized page", [("archetype", "Blog-Posts"), ("framework", "react"),
          ("path", file.path), ("dark_mode", "true")]⟩]) ∧
    (strict.generateWith request store).2.log = [snippetsEntry 1] := by
  intro lenient strict request store
  obtain ⟨hlenient, -, -, -⟩ := generate_log lenient request
  obtain ⟨-, hstrict, hstore, -⟩ := generate_log strict request
  have hposts : Archetype.parse " Blog-Posts " = .error (.unknownArchetype " Blog-Posts ") := rfl
  have hsolid : Target.parse "Solid" = .error (.unknownTarget "Solid") := rfl
  constructor
  · obtain ⟨target, file, hresult, ⟨htarget, -⟩, hlog⟩ := hlenient rfl
    have hreact : (lenient.targetFor "Solid").result = .ok .react :=
      lenient.result_targetFor_of_lenient rfl (by simp [hsolid])
    have hname : ArchetypeName.parse " Blog-Posts " = .unknown "Blog-Posts" := rfl
    obtain rfl : target = .react := by
      rw [hreact] at htarget
      exact (Except.ok.inj htarget).symm
    simp only [request, archetypeWarnings, targetWarnings, hposts, hsolid, hname] at hlog
    exact ⟨file, hresult, hlog⟩
  · have hrefused : (strict.generate request).result =
        .error (.name (.unknownArchetype " Blog-Posts ")) :=
      (strict.result_generate_eq_error_iff request rfl _).mpr
        (.inl ⟨by simp [request, hposts], rfl⟩)
    rw [(hstore store).2, (hstrict rfl).2 _ hrefused]
    rfl

end Generator

end Scaffold
