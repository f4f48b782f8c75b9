import Scaffold.Proofs.Assembly.Declared
import Scaffold.Proofs.Generator.Policies
import Scaffold.Proofs.PageName.Spelled

/-!
# One name for a request and for a markup text

A request has its archetype parsed before a file is named for it: white space around the name goes,
and a spelling of an archetype gives way to the archetype's own name. A markup text goes into its
file under the name as it was given. So the two files are named alike for a name that parsing does
not change, and for another one just when its segment and its identifier do not change with it.
-/

namespace Scaffold

open PageName Text

/-! ### Files of one target -/

namespace Target

variable {t : Target} {name other : String} {body body' : Body} {setting setting' : Setting}
  {file file' : File}

theorem filePath_inj {suffix extension : String} :
    filePath name suffix extension = filePath other suffix extension ↔
      segment name = segment other := by
  simp [filePath, ← String.toList_inj]

theorem path_eq_iff (hfile : t.assemble ⟨name, body⟩ setting = .ok file)
    (hfile' : t.assemble ⟨other, body'⟩ setting' = .ok file')
    (htypes : setting.typescript = setting'.typescript) :
    file.path = file'.path ↔ segment name = segment other := by
  rw [path_of_assemble hfile, path_of_assemble hfile', htypes]
  exact filePath_inj

theorem componentName?_eq_iff (hfile : t.assemble ⟨name, body⟩ setting = .ok file)
    (hfile' : t.assemble ⟨other, body'⟩ setting' = .ok file') :
    t.componentName? file.content = t.componentName? file'.content ↔
      t = html ∨ identifier name = identifier other := by
  rw [componentName?_of_assemble hfile, componentName?_of_assemble hfile']
  cases t <;> simp [componentSuffix?, ← String.toList_inj]

theorem selector?_eq_iff (hfile : t.assemble ⟨name, body⟩ setting = .ok file)
    (hfile' : t.assemble ⟨other, body'⟩ setting' = .ok file') :
    t.selector? file.content = t.selector? file'.content ↔
      t ≠ angular ∨ segment name = segment other := by
  rw [selector?_of_assemble hfile, selector?_of_assemble hfile', ← selectorInside_inj]
  by_cases ht : t = angular <;> simp [ht]

end Target

namespace Generator

/-- For one name a lenient generator makes both files: one is assembled for what the name stands
for, the other for the name itself. -/
theorem exists_files_of_lenient (g : Generator) (hlenient : g.options.fallback = .lenient)
    (request : Request) {target : Target}
    (htarget : (g.targetFor request.target).result = .ok target)
    (markup : String) (look : Look) (design : Design) :
    ∃ page file tree, (g.generate request).result = .ok [page] ∧
      (g.markupFile target request.archetype markup look design).result = .ok file ∧
      target.assemble ⟨(ArchetypeName.parse request.archetype).text, .tree tree⟩
        (g.setting ⟨request.appName, request.darkMode⟩ request.design) = .ok page ∧
      target.assemble ⟨request.archetype, .markup markup⟩ (g.setting look design) = .ok file := by
  obtain ⟨page, hpage, hmade⟩ := g.exists_generate request
    (g.result_archetypeFor (.inl hlenient)) htarget
  obtain ⟨file, hfile⟩ := g.exists_markupFile target request.archetype markup look design
  exact ⟨page, file, _, hpage, hfile, g.result_pageFile_eq_ok.mp hmade,
    g.result_markupFile_eq_ok.mp hfile⟩

/-- The file of a markup text and the one that a lenient generator makes for a request whose
archetype is the same name. Their paths are the same, and so are their selectors, just when the
blanks around the name leave no hyphen and the name, if it stands for an archetype, has no capital
behind a small letter. The components that they declare have the same name just when the page's name
does not stand for an archetype, or has no capital within a word. -/
theorem names_agree_iff (g : Generator) (request : Request) {target : Target}
    (htarget : ((g.withFallback .lenient).targetFor request.target).result = .ok target)
    (markup : String) (look : Look) (design : Design) :
    let lenient := g.withFallback .lenient
    let given := request.archetype.toList
    let keepsSegment := BlanksMerge given ∧
      ∀ a, Archetype.parse request.archetype = .ok a → HumpFree (trim given)
    let keepsIdentifier :=
      ∀ a, Archetype.parse request.archetype = .ok a → CapitalsLead (trim given)
    ∃ page file, (lenient.generate request).result = .ok [page] ∧
      (lenient.markupFile target request.archetype markup look design).result = .ok file ∧
      (page.path = file.path ↔ keepsSegment) ∧
      (target.componentName? page.content = target.componentName? file.content ↔
        target = .html ∨ keepsIdentifier) ∧
      (target.selector? page.content = target.selector? file.content ↔
        target ≠ .angular ∨ keepsSegment) := by
  intro lenient given keepsSegment keepsIdentifier
  obtain ⟨page, file, tree, hpage, hfile, hpage', hfile'⟩ :=
    lenient.exists_files_of_lenient rfl request htarget markup look design
  refine ⟨page, file, hpage, hfile, ?_, ?_, ?_⟩
  · rw [Target.path_eq_iff hpage' hfile' rfl, ArchetypeName.segment_text_iff]
  · rw [Target.componentName?_eq_iff hpage' hfile', ArchetypeName.identifier_text_iff]
  · rw [Target.selector?_eq_iff hpage' hfile', ArchetypeName.segment_text_iff]

/-- A spelling with capitals where words start. -/
theorem names_agree_iff_auth_login :
    let lenient := (Generator.standard {}).withFallback .lenient
    let request : Request := ⟨"Auth Login", "Angular", true, "Acme", {}⟩
    (lenient.targetFor request.target).result = .ok .angular ∧
    ∃ page file, (lenient.generate request).result = .ok [page] ∧
      (lenient.markupFile .angular "Auth Login" "<p></p>" {} {}).result = .ok file ∧
      page.path = file.path ∧
      Target.angular.componentName? page.content = Target.angular.componentName? file.content ∧
      Target.angular.selector? page.content = Target.angular.selector? file.content := by
  intro lenient request
  have hangular : Target.parse "Angular" = .ok .angular := rfl
  have htarget : (lenient.targetFor request.target).result = .ok .angular := by
    rw [targetFor_of_parse _ hangular, Traced.result_pure]
  obtain ⟨page, file, hpage, hfile, hpath, hcomponent, hselector⟩ :=
    names_agree_iff (.standard {}) request htarget "<p></p>" {} {}
  have hsegment : BlanksMerge "Auth Login".toList ∧
      ∀ a, Archetype.parse "Auth Login" = .ok a → HumpFree (trim "Auth Login".toList) :=
    ⟨by decide, fun _ _ => by decide⟩
  exact ⟨htarget, page, file, hpage, hfile, hpath.mpr hsegment,
    hcomponent.mpr (.inr fun _ _ => by decide), hselector.mpr (.inr hsegment)⟩

/-- A blank in front of a name leaves a hyphen in the path of a markup text, and capitals within the
name of an archetype stay in the name of its component. -/
theorem not_names_agree_pricing :
    let g := Generator.standard {}
    (∃ page file, (g.generate ⟨" pricing", "vue", false, "My App", {}⟩).result = .ok [page] ∧
      (g.markupFile .vue " pricing" "<p></p>" {} {}).result = .ok file ∧
      page.path = "pages/pricing.vue" ∧ file.path = "pages/-pricing.vue") ∧
    ∃ page file, (g.generate ⟨"LANDING", "react", false, "My App", {}⟩).result = .ok [page] ∧
      (g.markupFile .react "LANDING" "<p></p>" {} {}).result = .ok file ∧
      Target.react.componentName? page.content = some "LandingPage".toList ∧
      Target.react.componentName? file.content = some "LANDINGPage".toList := by
  intro g
  constructor
  · have hvue : (g.targetFor "vue").result = .ok .vue := rfl
    obtain ⟨page, file, tree, hpage, hfile, hpage', hfile'⟩ :=
      g.exists_files_of_lenient rfl ⟨" pricing", "vue", false, "My App", {}⟩ hvue "<p></p>" {} {}
    have hsegments : segment (ArchetypeName.parse " pricing").text = "pricing" ∧
        segment " pricing" = "-pricing" := by decide +kernel
    refine ⟨page, file, hpage, hfile, ?_, ?_⟩
    · rw [Target.path_of_assemble hpage', filePath, hsegments.1]
      rfl
    · rw [Target.path_of_assemble hfile', filePath, hsegments.2]
      rfl
  · have hreact : (g.targetFor "react").result = .ok .react := rfl
    obtain ⟨page, file, tree, hpage, hfile, hpage', hfile'⟩ :=
      g.exists_files_of_lenient rfl ⟨"LANDING", "react", false, "My App", {}⟩ hreact "<p></p>" {} {}
    have hidentifiers : identifier (ArchetypeName.parse "LANDING").text = "Landing" ∧
        identifier "LANDING" = "LANDING" := by decide +kernel
    refine ⟨page, file, hpage, hfile, ?_, ?_⟩
    · rw [Target.componentName?_of_assemble hpage', hidentifiers.1]
      rfl
    · rw [Target.componentName?_of_assemble hfile', hidentifiers.2]
      rfl

end Generator

end Scaffold
