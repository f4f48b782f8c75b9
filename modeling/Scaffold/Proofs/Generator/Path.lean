import Scaffold.Proofs.Generator.Results
import Scaffold.Proofs.PageName.Segment

/-!
# Where files are placed

Every path starts with the folder of pages, and what follows is made from the segment of the name.
It is one file in that folder when the name is a file name. Nothing else is taken out of a name: one
with a slash leads on through its folders, and the empty name gives a file without a name.
-/

namespace Scaffold

open PageName

/-- The path is the folder of pages and one file name, to which the name gives a segment. -/
structure StaysInPages (name path : String) : Prop where
  segment : IsFileName (segment name).toList
  path : ∃ file, path.toList = "pages/".toList ++ file ∧ IsFileName file

theorem isFileName_append {front back : List Char} (hfront : IsFileName front)
    (hback : IsFileName back) : IsFileName (front ++ back) := by
  obtain ⟨hne, hslash, hback', hnul⟩ := hfront
  refine ⟨List.append_ne_nil_of_left_ne_nil hne back, ?_, ?_, ?_⟩
  · rw [List.mem_append]
    exact not_or.mpr ⟨hslash, hback.2.1⟩
  · rw [List.mem_append]
    exact not_or.mpr ⟨hback', hback.2.2.1⟩
  · rw [List.mem_append]
    exact not_or.mpr ⟨hnul, hback.2.2.2⟩

/-- What is put behind the segment leads nowhere else. -/
theorem isFileName_suffix (t : Target) (typescript : Bool) :
    IsFileName (t.pathSuffix.toList ++ ".".toList ++ (t.fileExtension typescript).toList) := by
  cases t <;> cases typescript <;> decide

theorem staysInPages_filePath_iff (name : String) (t : Target) (typescript : Bool) :
    StaysInPages name (filePath name t.pathSuffix (t.fileExtension typescript)) ↔
      IsFileName name.toList := by
  constructor
  · exact fun h => isFileName_segment_iff.mp h.segment
  · intro h
    have hsegment := isFileName_segment_iff.mpr h
    refine ⟨hsegment, _, ?_, isFileName_append hsegment (isFileName_suffix t typescript)⟩
    simp [filePath]

theorem isFileName_archetype (a : Archetype) : IsFileName a.name.toList := by
  cases a <;> decide

/-- A file stays in the folder of pages when its page has a file name for its name, and only then;
the archetypes have. -/
theorem staysInPages_iff (g : Generator) :
    (∀ request files, (g.generate request).result = .ok files →
      let name := (ArchetypeName.parse request.archetype).text
      ∃ file, files = [file] ∧ (StaysInPages name file.path ↔ IsFileName name.toList)) ∧
    (∀ target name markup look design file,
      (g.markupFile target name markup look design).result = .ok file →
      (StaysInPages name file.path ↔ IsFileName name.toList)) ∧
    ∀ a : Archetype, IsFileName a.name.toList := by
  refine ⟨?_, ?_, isFileName_archetype⟩
  · intro request files h
    obtain ⟨target, file, -, -, hfile, rfl⟩ := g.result_generate_eq_ok.mp h
    have hpath := Target.path_of_assemble (g.result_pageFile_eq_ok.mp hfile)
    exact ⟨file, rfl, by rw [hpath]; exact staysInPages_filePath_iff _ target _⟩
  · intro target name markup look design file h
    rw [Target.path_of_assemble (g.result_markupFile_eq_ok.mp h)]
    exact staysInPages_filePath_iff name target _

/-- A known name, however it is written, stays in the folder, and so does a name of several
words. -/
theorem staysInPages_iff_crud_table :
    (∃ file, ((Generator.standard {}).generate ⟨"CRUD table", "Vue", true, "My App", {}⟩).result =
        .ok [file] ∧
      StaysInPages "crud_table" file.path) ∧
    ∃ file, ((Generator.standard {}).markupFile .angular "Sign up" "<p></p>" {} {}).result =
        .ok file ∧
      StaysInPages "Sign up" file.path := by
  obtain ⟨hpages, hmarkups, -⟩ := staysInPages_iff (.standard {})
  constructor
  · have hvue : ((Generator.standard {}).targetFor "Vue").result = .ok .vue := rfl
    obtain ⟨file, hresult, -⟩ := (Generator.standard {}).exists_generate
      ⟨"CRUD table", "Vue", true, "My App", {}⟩ (Generator.result_archetypeFor _ (.inl rfl)) hvue
    obtain ⟨file', heq, hiff⟩ := hpages _ _ hresult
    have hname : (ArchetypeName.parse "CRUD table").text = "crud_table" := rfl
    obtain rfl := List.singleton_inj.mp heq
    rw [hname] at hiff
    exact ⟨file, hresult, hiff.mpr (by decide)⟩
  · obtain ⟨file, hfile⟩ :=
      (Generator.standard {}).exists_markupFile .angular "Sign up" "<p></p>" {} {}
    exact ⟨file, hfile, (hmarkups _ _ _ _ _ _ hfile).mpr (by decide)⟩

/-- A name may lead out of the folder, and the empty name is no name of a file. -/
theorem not_staysInPages_parent :
    (∃ file, ((Generator.standard {}).generate ⟨"../x", "react", false, "My App", {}⟩).result =
        .ok [file] ∧
      file.path = "pages/../x.tsx" ∧ ¬ StaysInPages "../x" file.path) ∧
    ∃ file, ((Generator.standard {}).markupFile .svelte "" "<p></p>" {} {}).result = .ok file ∧
      file.path = "pages/.svelte" ∧ ¬ StaysInPages "" file.path := by
  constructor
  · have hreact : ((Generator.standard {}).targetFor "react").result = .ok .react := rfl
    obtain ⟨file, hresult, hfile⟩ := (Generator.standard {}).exists_generate
      ⟨"../x", "react", false, "My App", {}⟩ (Generator.result_archetypeFor _ (.inl rfl)) hreact
    have hpath := Target.path_of_assemble (Generator.result_pageFile_eq_ok _ |>.mp hfile)
    have hname : (ArchetypeName.parse "../x").text = "../x" := rfl
    rw [hname] at hpath
    refine ⟨file, hresult, hpath, ?_⟩
    rw [hpath, staysInPages_filePath_iff]
    decide
  · obtain ⟨file, hfile⟩ := (Generator.standard {}).exists_markupFile .svelte "" "<p></p>" {} {}
    have hpath := Target.path_of_assemble (Generator.result_markupFile_eq_ok _ |>.mp hfile)
    refine ⟨file, hfile, hpath, ?_⟩
    rw [hpath, staysInPages_filePath_iff]
    decide

end Scaffold
