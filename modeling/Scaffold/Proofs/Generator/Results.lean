import Scaffold.Generator
import Scaffold.Proofs.Assembly.Rendering

/-!
# What a generator gives

A step of a generator reports events and gives a result. For the result alone, a sequence of steps
goes on just when every step gives one (`Traced.result_bind_eq_ok`). So a request has its file when
both of its names are resolved, and a page or a markup text whose target is resolved always has one.
-/

namespace Scaffold

namespace Traced

variable {α β : Type}

@[simp] theorem result_pure (a : α) : (pure a : Traced α).result = .ok a := rfl

@[simp] theorem result_emit (event : Event) : (emit event).result = .ok () := rfl

theorem result_bind (x : Traced α) (f : α → Traced β) :
    (x >>= f).result = x.result >>= fun a => (f a).result := by
  cases hx : x.result with
  | ok a => simp [bind, Except.bind, hx]
  | error e => simp [bind, Except.bind, hx]

theorem result_bind_eq_ok {x : Traced α} {f : α → Traced β} {b : β} :
    (x >>= f).result = .ok b ↔ ∃ a, x.result = .ok a ∧ (f a).result = .ok b := by
  cases hx : x.result with
  | ok a => simp [bind, hx]
  | error e => simp [bind, hx]

theorem result_ofExcept_mapError_eq_ok {result : Except TemplateError α} {a : α} :
    (ofExcept (result.mapError .template)).result = .ok a ↔ result = .ok a := by
  cases result with
  | ok b =>
    change Except.ok b = .ok a ↔ _
    rw [Except.ok.injEq, Except.ok.injEq]
  | error e => exact ⟨nofun, nofun⟩

end Traced

/-- The path of a file depends on the name of its page and on the choice of types. -/
theorem Target.path_of_assemble {t : Target} {name : String} {body : Body} {setting : Setting}
    {file : File} (h : t.assemble ⟨name, body⟩ setting = .ok file) :
    file.path = filePath name t.pathSuffix (t.fileExtension setting.typescript) := by
  have hrendered := t.exists_render_skeleton ⟨name, body⟩ setting
  obtain ⟨content, hcontent⟩ := Template.exists_renderChars hrendered
  rw [assemble_eq hcontent] at h
  cases h
  rfl

namespace Generator

variable (g : Generator)

/-! ### Names -/

/-- An archetype that is resolved is the one that the name is parsed to. -/
theorem eq_parse_of_archetypeFor {name : String} {archetype : ArchetypeName}
    (h : (g.archetypeFor name).result = .ok archetype) : archetype = .parse name := by
  unfold archetypeFor at h
  split at h
  · next a heq => simpa [heq] using h.symm
  · next text heq =>
    split at h
    · cases h
    · rw [Traced.result_bind_eq_ok] at h
      obtain ⟨-, -, h⟩ := h
      simpa [heq] using h.symm

theorem result_archetypeFor {name : String}
    (h : g.options.fallback = .lenient ∨ ∃ a, ArchetypeName.parse name = .known a) :
    (g.archetypeFor name).result = .ok (.parse name) := by
  unfold archetypeFor
  split
  · next a heq => rw [heq, Traced.result_pure]
  · next text heq =>
    obtain hlenient | ⟨a, ha⟩ := h
    · rw [hlenient, heq]
      rfl
    · rw [heq] at ha
      cases ha

theorem exists_targetFor {name : String}
    (h : g.options.fallback = .lenient ∨ ∃ t, Target.parse name = .ok t) :
    ∃ t, (g.targetFor name).result = .ok t := by
  unfold targetFor
  split
  · next t heq => exact ⟨t, rfl⟩
  · next e heq =>
    obtain hlenient | ⟨t, ht⟩ := h
    · rw [hlenient]
      exact ⟨.react, rfl⟩
    · rw [heq] at ht
      cases ht

/-! ### Files -/

/-- What a file of the generator shows besides its page. -/
def setting (look : Look) (design : Design) : Setting :=
  ⟨look.appName, look.darkMode, design, g.options.typescript⟩

theorem result_pageFile_eq_ok {archetype : ArchetypeName} {target : Target} {look : Look}
    {design : Design} {file : File} :
    (g.pageFile archetype target look design).result = .ok file ↔
      target.assemble ⟨archetype.text, .tree (g.bodies.body archetype look)⟩
        (g.setting look design) = .ok file := by
  simp only [pageFile, assemble, Traced.result_bind_eq_ok,
    Traced.result_ofExcept_mapError_eq_ok, Traced.result_emit, Traced.result_pure]
  simp [setting]

theorem result_markupFile_eq_ok {target : Target} {name markup : String} {look : Look}
    {design : Design} {file : File} :
    (g.markupFile target name markup look design).result = .ok file ↔
      target.assemble ⟨name, .markup markup⟩ (g.setting look design) = .ok file := by
  simp only [markupFile, assemble, Traced.result_bind_eq_ok,
    Traced.result_ofExcept_mapError_eq_ok, Traced.result_emit, Traced.result_pure]
  simp [setting]

theorem result_generate_eq_ok {request : Request} {files : List File} :
    (g.generate request).result = .ok files ↔
      ∃ target file, (g.archetypeFor request.archetype).result = .ok (.parse request.archetype) ∧
        (g.targetFor request.target).result = .ok target ∧
        (g.pageFile (.parse request.archetype) target ⟨request.appName, request.darkMode⟩
          request.design).result = .ok file ∧ files = [file] := by
  simp only [generate, Traced.result_bind_eq_ok, Traced.result_pure]
  constructor
  · rintro ⟨archetype, harchetype, target, htarget, file, hfile, heq⟩
    have hparse := g.eq_parse_of_archetypeFor harchetype
    rw [hparse] at harchetype hfile
    exact ⟨target, file, harchetype, htarget, hfile, by simpa using heq.symm⟩
  · rintro ⟨target, file, harchetype, htarget, hfile, rfl⟩
    exact ⟨_, harchetype, target, htarget, file, hfile, rfl⟩

theorem exists_pageFile (archetype : ArchetypeName) (target : Target) (look : Look)
    (design : Design) : ∃ file, (g.pageFile archetype target look design).result = .ok file := by
  obtain ⟨file, hfile⟩ := target.exists_assemble
    ⟨archetype.text, .tree (g.bodies.body archetype look)⟩ (g.setting look design)
  exact ⟨file, g.result_pageFile_eq_ok.mpr hfile⟩

theorem exists_markupFile (target : Target) (name markup : String) (look : Look)
    (design : Design) :
    ∃ file, (g.markupFile target name markup look design).result = .ok file := by
  obtain ⟨file, hfile⟩ := target.exists_assemble ⟨name, .markup markup⟩ (g.setting look design)
  exact ⟨file, g.result_markupFile_eq_ok.mpr hfile⟩

/-- A request whose names are resolved has its file. -/
theorem exists_generate (request : Request) {target : Target}
    (harchetype : (g.archetypeFor request.archetype).result = .ok (.parse request.archetype))
    (htarget : (g.targetFor request.target).result = .ok target) :
    ∃ file, (g.generate request).result = .ok [file] ∧
      (g.pageFile (.parse request.archetype) target ⟨request.appName, request.darkMode⟩
        request.design).result = .ok file := by
  obtain ⟨file, hfile⟩ := g.exists_pageFile (.parse request.archetype) target
    ⟨request.appName, request.darkMode⟩ request.design
  exact ⟨file, g.result_generate_eq_ok.mpr ⟨target, file, harchetype, htarget, hfile, rfl⟩, hfile⟩

end Generator

end Scaffold
