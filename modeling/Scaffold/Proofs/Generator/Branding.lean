import Scaffold.Proofs.Assembly.Shown
import Scaffold.Proofs.Generator.Policies
import Scaffold.Proofs.Page.Brand
import Scaffold.Proofs.Page.Standard

/-!
# Names in files

The name of the application stands in every file over the standard bodies, and the name that has no
body in the file of its placeholder, each on one line and as the target writes a text.
-/

namespace Scaffold

open Text

theorem BodyTable.standard_body_unknown (name : String) :
    standard.body (.unknown name) = Page.placeholder name := rfl

theorem BodyTable.shows_standard_body (archetype : ArchetypeName) (look : Look) :
    (standard.body archetype look).Shows look.appName.toList := by
  cases archetype with
  | known a =>
    rw [standard_body_known]
    exact Page.shows_standardBody look a
  | unknown name =>
    rw [standard_body_unknown]
    exact Page.shows_placeholder_appName look name

namespace Generator

/-- The file names the application, and the page if it has no body. -/
structure ShowsNames (target : Target) (appName : String) (archetype : ArchetypeName)
    (file : File) : Prop where
  app : OneLine appName.toList → target.shown appName.toList <:+: file.content.toList
  unknown : ∀ name, archetype = .unknown name → OneLine name.toList →
    target.shown name.toList <:+: file.content.toList

theorem showsNames_of_pageFile {options : Options} {archetype : ArchetypeName} {target : Target}
    {look : Look} {design : Design} {file : File}
    (h : ((standard options).pageFile archetype target look design).result = .ok file) :
    ShowsNames target look.appName archetype file := by
  rw [result_pageFile_eq_ok] at h
  constructor
  · intro hline
    exact target.shown_infix_content h hline (BodyTable.shows_standard_body archetype look)
  · rintro name rfl hline
    exact target.shown_infix_content h hline (Page.shows_placeholder_name look name)

/-- Every page over the standard bodies names its application, and so does the file of every request
whose names are resolved; the file for an archetype that is not known also shows the trimmed
name. -/
theorem generate_showsNames (options : Options) :
    (∀ (archetype : ArchetypeName) (target : Target) (look : Look) (design : Design),
      ∃ file, ((standard options).pageFile archetype target look design).result = .ok file ∧
        ShowsNames target look.appName archetype file) ∧
    ∀ (request : Request) (target : Target),
      (options.fallback = .lenient ∨ ∃ a, Archetype.parse request.archetype = .ok a) →
      ((standard options).targetFor request.target).result = .ok target →
      ∃ file, ((standard options).generate request).result = .ok [file] ∧
        (OneLine request.appName.toList →
          target.shown request.appName.toList <:+: file.content.toList) ∧
        ((∀ a, Archetype.parse request.archetype ≠ .ok a) →
          let name := Text.trim request.archetype.toList
          OneLine name → target.shown name <:+: file.content.toList) := by
  constructor
  · intro archetype target look design
    obtain ⟨file, hfile⟩ := (standard options).exists_pageFile archetype target look design
    exact ⟨file, hfile, showsNames_of_pageFile hfile⟩
  · intro request target hserved htarget
    have hparse : options.fallback = .lenient ∨
        ∃ a, ArchetypeName.parse request.archetype = .known a :=
      hserved.imp_right fun ⟨a, ha⟩ => ⟨a, ArchetypeName.parse_of_ok ha⟩
    obtain ⟨file, hresult, hfile⟩ := (standard options).exists_generate request
      ((standard options).result_archetypeFor hparse) htarget
    have hnames := showsNames_of_pageFile hfile
    refine ⟨file, hresult, hnames.app, ?_⟩
    intro hunknown name hline
    have hshown := hnames.unknown (String.ofList name) (ArchetypeName.parse_of_ne_ok hunknown)
    rw [String.toList_ofList] at hshown
    exact hshown hline

/-- An application and a page with signs in their names that templates take for their own. -/
theorem generate_showsNames_signs :
    let request : Request := ⟨" \x60home\x60 ", "angular", true, "R@\x7bD\x7d", {}⟩
    ∃ file, ((standard {}).generate request).result = .ok [file] ∧
      "R&#64;&#123;D&#125;".toList <:+: file.content.toList ∧
      "\\\x60home\\\x60".toList <:+: file.content.toList := by
  intro request
  have hunknown : ∀ a, Archetype.parse " \x60home\x60 " ≠ .ok a := by
    have herror : Archetype.parse " \x60home\x60 " =
        .error (.unknownArchetype " \x60home\x60 ") := rfl
    simp [herror]
  have hangular : Target.parse "angular" = .ok .angular := rfl
  obtain ⟨file, hresult, happ, hname⟩ := (generate_showsNames {}).2 request .angular (.inl rfl)
    (by rw [(standard {}).targetFor_of_parse hangular, Traced.result_pure])
  refine ⟨file, hresult, ?_, ?_⟩
  · have hshown : Target.angular.shown "R@\x7bD\x7d".toList = "R&#64;&#123;D&#125;".toList := by
      decide
    rw [← hshown]
    exact happ (by decide)
  · have hshown : Target.angular.shown (Text.trim " \x60home\x60 ".toList) =
        "\\\x60home\\\x60".toList := by
      decide
    rw [← hshown]
    exact hname hunknown (by decide)

end Generator

end Scaffold
