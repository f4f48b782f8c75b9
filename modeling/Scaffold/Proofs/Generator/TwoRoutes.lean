import Scaffold.Proofs.Generator.Results
import Scaffold.Proofs.Page.Respellable

/-!
# Two routes to a file

The body of a page can go into its file as a tree, or be printed in the neutral dialect first and go
in as a markup text. The file depends on a body by the text it gives in the dialect of the target
(`Target.assemble_congr`), and a body that can be respelled gives the same text in both forms.
-/

namespace Scaffold

theorem Target.assemble_congr {t : Target} {name : String} {body other : Body}
    (h : body.render t.dialect = other.render t.dialect) (setting : Setting) :
    t.assemble ⟨name, body⟩ setting = t.assemble ⟨name, other⟩ setting := by
  have htext : t.bodyText body = t.bodyText other := by
    cases t <;> simp only [dialect] at h <;> simp only [bodyText, h]
  have hfields : t.fields ⟨name, body⟩ setting = t.fields ⟨name, other⟩ setting := by
    simp only [fields, htext]
  simp only [assemble, hfields]

theorem render_tree_eq_render_markup {tree : Node} (h : tree.IsRespellable) (dialect : Dialect) :
    (Body.tree tree).render dialect = (Body.markup (tree.render .jsx)).render dialect := by
  cases dialect with
  | jsx => exact String.ofList_toList.symm
  | html =>
    rw [← String.toList_inj]
    exact (onePass_render h).symm.trans (toList_respell _).symm

/-- A standard page is the same file by either route, as long as no name on it has a keyword. -/
theorem pageFile_eq_markupFile (options : Options) (archetype : ArchetypeName) (target : Target)
    (look : Look) (design : Design)
    (hname : ∀ name, archetype = .unknown name →
      KeywordFree htmlSpellings name.toList ∧
        KeywordFree htmlSpellings (PageName.title name).toList)
    (happ : KeywordFree htmlSpellings look.appName.toList) :
    let g := Generator.standard options
    let markup := (g.bodies.body archetype look).render .jsx
    ∃ file, (g.pageFile archetype target look design).result = .ok file ∧
      (g.markupFile target archetype.text markup look design).result = .ok file := by
  intro g markup
  obtain ⟨file, hfile⟩ := g.exists_pageFile archetype target look design
  have htree : (g.bodies.body archetype look).IsRespellable :=
    BodyTable.isRespellable_standard_body happ hname
  have hmarkup := Generator.result_pageFile_eq_ok g |>.mp hfile
  rw [Target.assemble_congr (render_tree_eq_render_markup htree target.dialect)] at hmarkup
  exact ⟨file, hfile, Generator.result_markupFile_eq_ok g |>.mpr hmarkup⟩

/-- Names with parts of keywords, next to one another on the placeholder. -/
theorem pageFile_eq_markupFile_className :
    let g := Generator.standard {}
    let look : Look := ⟨"=htmlFor \x7b/", true⟩
    let archetype := ArchetypeName.unknown "class_name"
    let markup := (g.bodies.body archetype look).render .jsx
    KeywordFree htmlSpellings "class_name".toList ∧
      KeywordFree htmlSpellings (PageName.title "class_name").toList ∧
      KeywordFree htmlSpellings look.appName.toList ∧
      ∃ file, (g.pageFile archetype .angular look {}).result = .ok file ∧
        (g.markupFile .angular archetype.text markup look {}).result = .ok file := by
  intro g look archetype markup
  have hname : KeywordFree htmlSpellings "class_name".toList := by decide
  have htitle : KeywordFree htmlSpellings (PageName.title "class_name").toList := by
    decide +kernel
  have happ : KeywordFree htmlSpellings look.appName.toList := by decide
  refine ⟨hname, htitle, happ, pageFile_eq_markupFile {} archetype .angular look {} ?_ happ⟩
  rintro name heq
  obtain rfl := ArchetypeName.unknown.inj heq
  exact ⟨hname, htitle⟩

end Scaffold
