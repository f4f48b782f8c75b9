import Scaffold.Proofs.Generator.Results
import Scaffold.Proofs.Text.Space

/-!
# What becomes of names

A name that can be parsed is resolved alike by every generator, and its spelling is forgotten
(`archetypeFor_of_parse`, `targetFor_of_parse`). So the fallback decides about the other names only:
a strict generator refuses them, the archetype before the target, and a lenient one puts a
placeholder or the first target in their place.
-/

namespace Scaffold

/-! ### Parsing names -/

/-- Archetypes are looked up by trimmed names, so it does not matter that a name is trimmed
already. -/
theorem Archetype.ofName?_trim (name : String) :
    ofName? (String.ofList (Text.trim name.toList)) = ofName? name := by
  have hnormal : normalize (String.ofList (Text.trim name.toList)) = normalize name := by
    rw [normalize, String.toList_ofList, Text.trim_trim, normalize]
  simp only [ofName?, hnormal]

theorem Archetype.parse_eq_ok_iff {name : String} {a : Archetype} :
    Archetype.parse name = .ok a ↔ ofName? name = some a := by
  unfold Archetype.parse
  cases ofName? name <;> simp

theorem Target.parse_eq_ok_iff {name : String} {t : Target} :
    Target.parse name = .ok t ↔ ofName? name = some t := by
  unfold Target.parse
  cases ofName? name <;> simp

theorem ArchetypeName.parse_of_ok {name : String} {a : Archetype}
    (h : Archetype.parse name = .ok a) : ArchetypeName.parse name = .known a := by
  rw [Archetype.parse_eq_ok_iff, ← Archetype.ofName?_trim] at h
  simp only [ArchetypeName.parse, h]

/-- A name that is none of an archetype stands for itself, trimmed. -/
theorem ArchetypeName.parse_of_ne_ok {name : String} (h : ∀ a, Archetype.parse name ≠ .ok a) :
    ArchetypeName.parse name = .unknown (String.ofList (Text.trim name.toList)) := by
  have hnone : Archetype.ofName? name = none := by
    rw [Option.eq_none_iff_forall_ne_some]
    exact fun a ha => h a (Archetype.parse_eq_ok_iff.mpr ha)
  rw [← Archetype.ofName?_trim] at hnone
  simp only [ArchetypeName.parse, hnone]

theorem Target.parse_of_ne_ok {name : String} (h : ∀ t, Target.parse name ≠ .ok t) :
    Target.parse name = .error (.unknownTarget name) := by
  cases hname : Target.ofName? name with
  | some t => exact absurd (Target.parse_eq_ok_iff.mpr hname) (h t)
  | none => simp only [Target.parse, hname]

namespace Generator

/-! ### One name -/

section Names

variable (g : Generator) {name : String}

theorem archetypeFor_of_parse {a : Archetype} (h : Archetype.parse name = .ok a) :
    g.archetypeFor name = pure (.known a) := by
  simp only [archetypeFor, ArchetypeName.parse_of_ok h]

theorem targetFor_of_parse {t : Target} (h : Target.parse name = .ok t) :
    g.targetFor name = pure t := by
  simp only [targetFor, h]

/-- The error has the name as it was given, not as it was looked up. -/
theorem result_archetypeFor_of_strict (hstrict : g.options.fallback = .strict)
    (h : ∀ a, Archetype.parse name ≠ .ok a) :
    (g.archetypeFor name).result = .error (.name (.unknownArchetype name)) := by
  simp only [archetypeFor, ArchetypeName.parse_of_ne_ok h, hstrict]
  rfl

theorem result_targetFor_of_strict (hstrict : g.options.fallback = .strict)
    (h : ∀ t, Target.parse name ≠ .ok t) :
    (g.targetFor name).result = .error (.name (.unknownTarget name)) := by
  simp only [targetFor, Target.parse_of_ne_ok h, hstrict]
  rfl

theorem result_targetFor_of_lenient (hlenient : g.options.fallback = .lenient)
    (h : ∀ t, Target.parse name ≠ .ok t) : (g.targetFor name).result = .ok .react := by
  simp only [targetFor, Target.parse_of_ne_ok h, hlenient]
  rfl

end Names

/-! ### Requests -/

/-- The generator with another way to deal with unknown names. -/
def withFallback (g : Generator) (fallback : Fallback) : Generator :=
  { g with options := { g.options with fallback } }

section Requests

variable (g : Generator) (request : Request)

/-- A request is resolved name by name, and then its file is made. -/
theorem result_generate :
    (g.generate request).result = do
      let archetype ← (g.archetypeFor request.archetype).result
      let target ← (g.targetFor request.target).result
      let file ← (g.pageFile archetype target ⟨request.appName, request.darkMode⟩
        request.design).result
      return [file] := by
  simp only [generate, Traced.result_bind, Traced.result_pure]
  rfl

/-- A lenient generator makes one file of every request. -/
theorem exists_generate_of_lenient (hlenient : g.options.fallback = .lenient) :
    ∃ target file, (g.targetFor request.target).result = .ok target ∧
      (g.generate request).result = .ok [file] ∧
      (g.pageFile (.parse request.archetype) target ⟨request.appName, request.darkMode⟩
        request.design).result = .ok file := by
  have harchetype : (g.archetypeFor request.archetype).result = .ok (.parse request.archetype) :=
    g.result_archetypeFor (.inl hlenient)
  obtain ⟨target, htarget⟩ : ∃ target, (g.targetFor request.target).result = .ok target :=
    g.exists_targetFor (.inl hlenient)
  obtain ⟨file, hresult, hfile⟩ := g.exists_generate request harchetype htarget
  exact ⟨target, file, htarget, hresult, hfile⟩

/-- A strict generator refuses a request by the first of its names that cannot be parsed. -/
theorem result_generate_eq_error_iff (hstrict : g.options.fallback = .strict)
    (e : GenerationError) :
    (g.generate request).result = .error e ↔
      (∀ a, Archetype.parse request.archetype ≠ .ok a) ∧
          e = .name (.unknownArchetype request.archetype) ∨
        (∃ a, Archetype.parse request.archetype = .ok a) ∧
          (∀ t, Target.parse request.target ≠ .ok t) ∧
          e = .name (.unknownTarget request.target) := by
  by_cases harchetype : ∃ a, Archetype.parse request.archetype = .ok a
  · obtain ⟨a, ha⟩ := harchetype
    by_cases htarget : ∃ t, Target.parse request.target = .ok t
    · obtain ⟨t, ht⟩ := htarget
      have htarget : (g.targetFor request.target).result = .ok t := by
        rw [g.targetFor_of_parse ht, Traced.result_pure]
      obtain ⟨file, hfile, -⟩ := g.exists_generate request
        (g.result_archetypeFor (.inr ⟨a, ArchetypeName.parse_of_ok ha⟩)) htarget
      simp [hfile, ha, ht]
    · have hnone : ∀ t, Target.parse request.target ≠ .ok t := not_exists.mp htarget
      rw [result_generate, g.archetypeFor_of_parse ha, g.result_targetFor_of_strict hstrict hnone]
      simp [ha, hnone, bind, Except.bind, eq_comm]
  · have hnone : ∀ a, Archetype.parse request.archetype ≠ .ok a := not_exists.mp harchetype
    rw [result_generate, g.result_archetypeFor_of_strict hstrict hnone]
    simp [hnone, bind, Except.bind, eq_comm]

/-- What a strict generator resolves, a lenient one resolves alike. -/
theorem result_targetFor_withFallback {name : String} {t : Target}
    (h : ((g.withFallback .strict).targetFor name).result = .ok t) :
    ((g.withFallback .lenient).targetFor name).result = .ok t := by
  by_cases hparse : ∃ t, Target.parse name = .ok t
  · obtain ⟨t', ht'⟩ := hparse
    rw [targetFor_of_parse _ ht'] at h ⊢
    exact h
  · rw [result_targetFor_of_strict _ rfl (not_exists.mp hparse)] at h
    cases h

theorem result_generate_withFallback {files : List File}
    (h : ((g.withFallback .strict).generate request).result = .ok files) :
    ((g.withFallback .lenient).generate request).result = .ok files := by
  rw [result_generate_eq_ok] at h ⊢
  obtain ⟨target, file, -, htarget, hfile, rfl⟩ := h
  -- a page is made of what is resolved, so the fallback does not matter any more
  exact ⟨target, file, result_archetypeFor _ (.inl rfl), g.result_targetFor_withFallback htarget,
    hfile, rfl⟩

end Requests

/-- What a request leads to, by its names. A lenient generator makes one file of it, with the first
target for one that is not known and the placeholder, which shows the trimmed name, for an archetype
that is not known. A strict one refuses it exactly for such a name, the archetype's before the
target's and as it was given; any file that it makes is the lenient one. A name that is known counts
by what it stands for. -/
theorem generate_resolves (g : Generator) (request : Request) :
    let lenient := g.withFallback .lenient
    let strict := g.withFallback .strict
    (∃ file, (lenient.generate request).result = .ok [file]) ∧
    ((∀ t, Target.parse request.target ≠ .ok t) →
      (lenient.generate request).result =
        (lenient.generate { request with target := "react" }).result) ∧
    ((∀ a, Archetype.parse request.archetype ≠ .ok a) →
      let name := String.ofList (Text.trim request.archetype.toList)
      let look : Look := ⟨request.appName, request.darkMode⟩
      ∃ target file, (lenient.targetFor request.target).result = .ok target ∧
        (lenient.generate request).result = .ok [file] ∧
        target.assemble ⟨name, .tree (Page.placeholder name look)⟩
          (g.setting look request.design) = .ok file) ∧
    (∀ e, (strict.generate request).result = .error e ↔
      (∀ a, Archetype.parse request.archetype ≠ .ok a) ∧
          e = .name (.unknownArchetype request.archetype) ∨
        (∃ a, Archetype.parse request.archetype = .ok a) ∧
          (∀ t, Target.parse request.target ≠ .ok t) ∧
          e = .name (.unknownTarget request.target)) ∧
    (∀ files, (strict.generate request).result = .ok files →
      (lenient.generate request).result = .ok files) ∧
    (∀ archetype a, Archetype.parse request.archetype = .ok a → Archetype.parse archetype = .ok a →
      g.generate { request with archetype } = g.generate request) ∧
    ∀ target t, Target.parse request.target = .ok t → Target.parse target = .ok t →
      g.generate { request with target } = g.generate request := by
  intro lenient strict
  obtain ⟨target, file, htarget, hresult, hfile⟩ := lenient.exists_generate_of_lenient request rfl
  refine ⟨⟨file, hresult⟩, fun hunknown => ?_, fun hunknown => ?_,
    strict.result_generate_eq_error_iff request rfl,
    fun files => g.result_generate_withFallback request, ?_, ?_⟩
  · have hreact : Target.parse "react" = .ok .react := rfl
    rw [result_generate, result_generate, lenient.targetFor_of_parse hreact,
      lenient.result_targetFor_of_lenient rfl hunknown, Traced.result_pure]
  · rw [ArchetypeName.parse_of_ne_ok hunknown, result_pageFile_eq_ok] at hfile
    exact ⟨target, file, htarget, hresult, hfile⟩
  · intro archetype a ha hother
    simp only [generate, g.archetypeFor_of_parse ha, g.archetypeFor_of_parse hother]
  · intro target t ht hother
    simp only [generate, g.targetFor_of_parse ht, g.targetFor_of_parse hother]

/-- Names of each kind: two that are not known, and two that are, in several spellings. -/
theorem generate_resolves_spellings :
    let g := Generator.standard {}
    let lenient := g.withFallback .lenient
    let strict := g.withFallback .strict
    let odd : Request := ⟨" Blog-Posts ", "Solid", true, "Acme", {}⟩
    let plain : Request := ⟨"Auth Login", "NEXT.js", false, "Acme", {}⟩
    ((lenient.generate odd).result = (lenient.generate { odd with target := "react" }).result ∧
      (∃ target file, (lenient.targetFor "Solid").result = .ok target ∧
        (lenient.generate odd).result = .ok [file] ∧
        target.assemble ⟨"Blog-Posts", .tree (Page.placeholder "Blog-Posts" ⟨"Acme", true⟩)⟩
          (g.setting ⟨"Acme", true⟩ {}) = .ok file) ∧
      (strict.generate odd).result = .error (.name (.unknownArchetype " Blog-Posts "))) ∧
    (∃ file, (strict.generate plain).result = .ok [file] ∧
      (lenient.generate plain).result = .ok [file]) ∧
    g.generate { plain with archetype := "auth-LOGIN" } = g.generate plain ∧
    g.generate { plain with target := " next" } = g.generate plain := by
  intro g lenient strict odd plain
  obtain ⟨-, hreact, hplaceholder, hrefused, -, -, -⟩ := generate_resolves g odd
  obtain ⟨-, -, -, -, hsame, harchetype, htarget⟩ := generate_resolves g plain
  have hsolid : ∀ t, Target.parse "Solid" ≠ .ok t := by
    have herror : Target.parse "Solid" = .error (.unknownTarget "Solid") := rfl
    simp [herror]
  have hposts : ∀ a, Archetype.parse " Blog-Posts " ≠ .ok a := by
    have herror : Archetype.parse " Blog-Posts " = .error (.unknownArchetype " Blog-Posts ") := rfl
    simp [herror]
  have hlogin : Archetype.parse "Auth Login" = .ok .authLogin := rfl
  have hnext : Target.parse "NEXT.js" = .ok .nextjs := rfl
  obtain ⟨file, hfile, -⟩ := strict.exists_generate plain
    (strict.result_archetypeFor (.inr ⟨_, ArchetypeName.parse_of_ok hlogin⟩))
    (by rw [strict.targetFor_of_parse hnext, Traced.result_pure])
  refine ⟨⟨hreact hsolid, ?_, (hrefused _).mpr (.inl ⟨hposts, rfl⟩)⟩,
    ⟨file, hfile, hsame _ hfile⟩, ?_, ?_⟩
  · have hname : String.ofList (Text.trim " Blog-Posts ".toList) = "Blog-Posts" := by decide
    have hshown := hplaceholder hposts
    rw [hname] at hshown
    exact hshown
  · exact harchetype "auth-LOGIN" .authLogin hlogin rfl
  · exact htarget " next" .nextjs hnext rfl

end Generator

end Scaffold
