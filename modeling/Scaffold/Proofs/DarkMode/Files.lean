import Scaffold.Proofs.Assembly.Escape
import Scaffold.Proofs.Assembly.Frame
import Scaffold.Proofs.DarkMode.Printing
import Scaffold.Proofs.Generator.Results
import Scaffold.Proofs.Page.Standard

/-!
# Files in the dark

A request in dark mode has the file of the same request without it, but for what is added: runs of
dark classes in the tags of the body, and the class of a document. The frame of the file is the same
but for that class, and what happens to the body on its way into the file keeps the runs where they
are.
-/

namespace Scaffold

open Text

/-! ### The body region -/

theorem templateEntity_keepsTags : KeepsTags templateEntity where
  toKeepsSpace := templateEntity_keepsSpace
  kept c hc := by
    refine templateEntity_eq_self ?_ ?_ ?_ <;>
    · rintro rfl
      exact absurd hc (by decide)
  fresh c d hd hsign := by
    rcases templateEntity_spec c with heq | ⟨r, hr, hentity, -⟩
    · rw [heq, List.mem_singleton] at hd
      exact hd
    · have hall : ∀ r ∈ entities, ['"', '<', '>'].all (!r.keyword.toList.contains ·) = true := by
        decide
      have hno := List.all_eq_true.mp (hall r hr) d hsign
      rw [hentity] at hd
      rw [List.contains_iff_mem.mpr hd] at hno
      cases hno

theorem literalChar_keepsTags : KeepsTags literalChar where
  toKeepsSpace := literalChar_keepsSpace
  kept c hc := by
    have hslash : c ≠ '\\' := by
      rintro rfl
      exact absurd hc (by decide)
    have hquote : c ≠ '\x60' := by
      rintro rfl
      exact absurd hc (by decide)
    simp [literalChar, hslash, hquote]
  fresh c d hd hsign := by
    rcases eq_of_mem_literalChar hd with heq | rfl
    · exact heq
    · exact absurd hsign (by decide)

/-- What a target does to a body keeps its runs. -/
theorem Target.darkens_bodyRegion {t : Target} {light dark : Node} {n : Nat}
    (h : Darkens (classKeyword t.dialect) n (light.render t.dialect).toList
      (dark.render t.dialect).toList) :
    Darkens (classKeyword t.dialect) n (t.bodyRegion (.tree light)).toList
      (t.bodyRegion (.tree dark)).toList := by
  have hkeyword := isClassChar_classKeyword t.dialect
  cases t with
  | react | nextjs | vue | html => exact h.indent hkeyword _
  | svelte => exact h
  | angular =>
    -- the entities leave no brace, so the template literal is escaped character by character
    have hescaped := (h.flatMap hkeyword templateEntity_keepsTags).flatMap hkeyword
      literalChar_keepsTags
    have htext : ∀ cs, (String.ofList (escapeLiteral (escapeInterpolation cs))).toList =
        (cs.flatMap templateEntity).flatMap literalChar := fun cs => by
      rw [String.toList_ofList, escapeLiteral_of_no_brace (not_mem_escapeInterpolation cs).2.1]
      rfl
    refine Darkens.indent hkeyword ?_ 4
    simp only [bodyText, Body.render, htext]
    exact hescaped

/-! ### Files -/

/-- The attribute of a document in the dark. -/
def rootClass : List Char := " class=\"dark\"".toList

/-- A document up to the attributes that its root has in the dark only. -/
def rootStart : List Char := "<!DOCTYPE html>\n<html lang=\"en\"".toList

/-- What dark mode may add between two parts of a file: dark classes in the class list of a tag, or
the class of a document, on its root. -/
inductive IsDarkAddition (t : Target) (before fragment after : List Char) : Prop
  | classes (hrun : IsDarkRun fragment)
    (hplace : EndsClassList (classKeyword t.dialect) before after)
  | document (ht : t = .html) (hfragment : fragment = rootClass)
    (hbefore : before = rootStart) (hafter : ['>'] <+: after)

/-- `dark` is `light` with fragments added, one at least. Each is one that dark mode may add in its
place, and a document has the class of its root among them once. -/
def OnlyAddsDark (t : Target) (light dark : List Char) : Prop :=
  ∃ front additions, additions ≠ [] ∧ light = lightText front additions ∧
    dark = darkText front additions ∧
    (∀ before a after, additions = before ++ a :: after →
      IsDarkAddition t (darkText front before) a.fragment (darkText a.behind after)) ∧
    (additions.map (·.fragment)).count rootClass = if t = .html then 1 else 0

theorem IsDarkRun.ne_rootClass {run : List Char} (h : IsDarkRun run) : run ≠ rootClass := by
  rintro rfl
  exact absurd (h.plain '"' (by decide)) (by decide)

/-- The start of a document goes in front of the runs. -/
theorem Darkens.onlyAddsDark {t : Target} {light dark : List Char} {n : Nat}
    (h : Darkens (classKeyword t.dialect) (n + 1) light dark)
    (hroot : t = .html → ['>'] <+: dark) :
    OnlyAddsDark t (t.documentStart false ++ light) (t.documentStart true ++ dark) := by
  obtain ⟨front, additions, hlength, rfl, rfl, hplaces⟩ := h.exists_additions
  have hclasses : (additions.map (·.fragment)).count rootClass = 0 := by
    rw [List.count_eq_zero]
    intro hmem
    obtain ⟨a, ha, heq⟩ := List.mem_map.mp hmem
    obtain ⟨before, after, hsplit⟩ := List.append_of_mem ha
    exact (hplaces before a after hsplit).1.ne_rootClass heq
  by_cases ht : t = .html
  · subst ht
    -- the class of the root is the first addition, and the runs are behind it
    refine ⟨rootStart, ⟨rootClass, front⟩ :: additions, by simp, ?_, ?_, ?_, ?_⟩
    · rw [lightText_cons]
      rfl
    · rw [darkText_cons]
      rfl
    · intro before a after heq
      cases before with
      | nil =>
        obtain ⟨rfl, rfl⟩ := List.cons.inj heq
        exact .document rfl rfl (by simp [darkText]) (hroot rfl)
      | cons first before =>
        obtain ⟨rfl, hmore⟩ := List.cons.inj heq
        obtain ⟨hrun, hends⟩ := hplaces before a after hmore
        rw [darkText_cons]
        exact .classes hrun ((hends.append_left _).append_left _)
    · rw [List.map_cons, List.count_cons_self, hclasses]
      rfl
  · have hnone : ∀ darkMode, t.documentStart darkMode = [] := by
      cases t <;> first | exact fun _ => rfl | exact absurd rfl ht
    refine ⟨front, additions, ?_, by rw [hnone]; rfl, by rw [hnone]; rfl, ?_,
      by rw [hclasses, if_neg ht]⟩
    · rintro rfl
      cases hlength
    · intro before a after heq
      obtain ⟨hrun, hends⟩ := hplaces before a after heq
      exact .classes hrun hends

/-- The two files of a page with a standard body. -/
theorem exists_pageFile_darkMode (options : Options) (archetype : ArchetypeName) (t : Target)
    (app : String) (design : Design) :
    let g := Generator.standard options
    ∃ light dark : File, (g.pageFile archetype t ⟨app, false⟩ design).result = .ok light ∧
      (g.pageFile archetype t ⟨app, true⟩ design).result = .ok dark ∧ dark.path = light.path ∧
      OnlyAddsDark t light.content.toList dark.content.toList := by
  intro g
  have hpage := BodyTable.showsName_standard_body archetype
  obtain ⟨n, hbody⟩ := hpage.darkens (d := t.dialect) app
  obtain ⟨before, after, hroot, hfile⟩ :=
    t.exists_frame archetype.text (g.setting ⟨app, false⟩ design)
  have hframed := ((t.darkens_bodyRegion hbody).append_right after).append_left before
  have hwhole := hframed.onlyAddsDark fun ht => (hroot ht).trans (List.prefix_append before _)
  refine ⟨_, _, g.result_pageFile_eq_ok.mpr (hfile _ false),
    g.result_pageFile_eq_ok.mpr (hfile _ true), rfl, ?_⟩
  rw [String.toList_ofList, String.toList_ofList]
  exact hwhole

/-- A request whose names are resolved has a file in the dark and one not in the dark, at one path,
and dark mode only adds dark fragments. -/
theorem generate_onlyAddsDark (options : Options) (request : Request)
    (h : options.fallback = .lenient ∨
      (∃ a, ArchetypeName.parse request.archetype = .known a) ∧
        ∃ t, Target.parse request.target = .ok t) :
    let g := Generator.standard options
    ∃ (t : Target) (light dark : File), (g.targetFor request.target).result = .ok t ∧
      (g.generate { request with darkMode := false }).result = .ok [light] ∧
      (g.generate { request with darkMode := true }).result = .ok [dark] ∧
      dark.path = light.path ∧ OnlyAddsDark t light.content.toList dark.content.toList := by
  intro g
  have harchetype := g.result_archetypeFor (h.imp_right And.left)
  obtain ⟨t, ht⟩ := g.exists_targetFor (h.imp_right And.right)
  obtain ⟨light, dark, hlight, hdark, hpath, hadds⟩ := exists_pageFile_darkMode options
    (.parse request.archetype) t request.appName request.design
  exact ⟨t, light, dark, ht,
    g.result_generate_eq_ok.mpr ⟨t, light, harchetype, ht, hlight, rfl⟩,
    g.result_generate_eq_ok.mpr ⟨t, dark, harchetype, ht, hdark, rfl⟩, hpath, hadds⟩

/-- A document of a page that is not there, for an application whose name has several lines and
looks like a dark class. -/
theorem generate_onlyAddsDark_placeholder :
    let g := Generator.standard {}
    let request : Request := ⟨"no such page", "HTML", true, "a dark:b\r\n<i class=\"", {}⟩
    g.options.fallback = .lenient ∧ ∃ light dark : File,
      (g.generate { request with darkMode := false }).result = .ok [light] ∧
      (g.generate request).result = .ok [dark] ∧
      dark.path = light.path ∧ OnlyAddsDark .html light.content.toList dark.content.toList := by
  intro g request
  obtain ⟨t, light, dark, ht, hlight, hdark, hpath, hadds⟩ :=
    generate_onlyAddsDark {} request (.inl rfl)
  have hhtml : ((Generator.standard {}).targetFor "HTML").result = .ok .html := rfl
  obtain rfl : t = .html := Except.ok.inj (ht.symm.trans hhtml)
  exact ⟨rfl, light, dark, hlight, hdark, hpath, hadds⟩

end Scaffold
