import Scaffold.Proofs.Assembly.Escape
import Scaffold.Proofs.Assembly.Rendering
import Scaffold.Proofs.Markup.Shows

/-!
# What a file shows of its page

A text on one line that a page shows stands in the file of every target: printing and indenting
keep it, the escapes of a template literal go character by character, and the skeleton puts the body
in as it is.
-/

namespace Scaffold

open Text

namespace Target

/-- A text of a page as the target writes it: under both escapes inside a template literal, and as
it is elsewhere. -/
def shown (t : Target) (cs : List Char) : List Char :=
  match t with
  | angular => escapeLiteral (escapeInterpolation cs)
  | _ => cs

theorem shown_angular (cs : List Char) :
    angular.shown cs = (cs.flatMap templateEntity).flatMap literalChar :=
  escapeLiteral_of_no_brace (not_mem_escapeInterpolation cs).2.1

theorem toList_bodyText (t : Target) (body : Body) :
    (t.bodyText body).toList = t.shown (body.render t.dialect).toList := by
  cases t with
  | angular => exact String.toList_ofList
  | _ => rfl

theorem shown_infix {cs whole : List Char} (t : Target) (h : cs <:+: whole) :
    t.shown cs <:+: t.shown whole := by
  cases t with
  | angular =>
    rw [shown_angular, shown_angular]
    exact (h.flatMap templateEntity).flatMap literalChar
  | _ => exact h

theorem oneLine_shown {cs : List Char} (t : Target) (h : OneLine cs) : OneLine (t.shown cs) := by
  cases t with
  | angular =>
    have hkept : ∀ c, isSpace c = true → (c ∈ angular.shown cs ↔ c ∈ cs) := by
      intro c hc
      rw [shown_angular, literalChar_keepsSpace.mem_flatMap_iff hc,
        templateEntity_keepsSpace.mem_flatMap_iff hc]
    exact ⟨(hkept '\n' rfl).not.mpr h.1, (hkept '\r' rfl).not.mpr h.2⟩
  | _ => exact h

theorem shown_infix_bodyRegion {cs : List Char} {body : Body} (t : Target) (hline : OneLine cs)
    (h : cs <:+: (body.render t.dialect).toList) :
    t.shown cs <:+: (t.bodyRegion body).toList := by
  have htext : t.shown cs <:+: (t.bodyText body).toList := by
    rw [toList_bodyText]
    exact t.shown_infix h
  cases t with
  | svelte => exact htext
  | _ => exact infix_indent (oneLine_shown _ hline) htext _

/-- What a page shows on one line stands in its file. -/
theorem shown_infix_content {name : String} {tree : Node} {setting : Setting} {file : File}
    {cs : List Char} {t : Target} (hfile : t.assemble ⟨name, .tree tree⟩ setting = .ok file)
    (hline : OneLine cs) (h : tree.Shows cs) : t.shown cs <:+: file.content.toList := by
  obtain ⟨file', hfile', front, back, piece, before, after, -, -, -, -, -, -, hcontent⟩ :=
    t.exists_bodyRegion ⟨name, .tree tree⟩ setting
  rw [hfile] at hfile'
  cases hfile'
  have htext : cs <:+: ((Body.tree tree).render t.dialect).toList := h.isInfix_render hline.1
  rw [hcontent, String.toList_ofList]
  exact (t.shown_infix_bodyRegion hline htext).trans (List.infix_append before _ after)

end Target

end Scaffold
