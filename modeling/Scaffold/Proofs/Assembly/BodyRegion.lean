import Scaffold.Proofs.Assembly.Escape
import Scaffold.Proofs.Assembly.Rendering
import Scaffold.Proofs.Respelling.KeywordFree

/-!
# Respelled markup in a file

Markup that was put into the HTML dialect has no keyword of the neutral dialect left, and what is
done to it afterwards brings none back: not the indenting, which drops carriage returns and adds
blanks, and not the escapes of a literal template. So the body region of the file has none either.
-/

namespace Scaffold

open Text

theorem keywordFree_escapeInterpolation {cs : List Char} (h : KeywordFree htmlSpellings cs) :
    KeywordFree htmlSpellings (escapeInterpolation cs) := by
  refine h.flatMap htmlSpellings_orderly.keyword_ne_nil fun c => ?_
  rcases templateEntity_spec c with heq | ⟨entity, hentity, hc, -⟩
  · exact .inl heq
  · have hall : ∀ entity ∈ entities, ∀ r ∈ htmlSpellings,
        entity.keyword.toList.all (!r.keyword.toList.contains ·) = true := by decide
    refine .inr ⟨templateEntity_keepsSpace.ne_nil c, fun r hr d hd => ?_⟩
    rw [hc] at hd
    simpa using List.all_eq_true.mp (hall entity hentity r hr) d hd

theorem keywordFree_literalChar {cs : List Char} (h : KeywordFree htmlSpellings cs) :
    KeywordFree htmlSpellings (cs.flatMap literalChar) := by
  have hslash : ∀ r ∈ htmlSpellings, '\\' ∉ r.keyword.toList := by decide
  have hquote : ∀ r ∈ htmlSpellings, '\x60' ∉ r.keyword.toList := by decide
  refine h.flatMap htmlSpellings_orderly.keyword_ne_nil fun c => ?_
  by_cases hc : c = '\\' ∨ c = '\x60'
  · refine .inr ⟨literalChar_keepsSpace.ne_nil c, fun r hr d hd => ?_⟩
    rcases eq_of_mem_literalChar hd with rfl | rfl
    · rcases hc with rfl | rfl
      · exact hslash r hr
      · exact hquote r hr
    · exact hslash r hr
  · rw [not_or] at hc
    exact .inl (by simp [literalChar, hc])

theorem keywordFree_respell (markup : String) :
    KeywordFree htmlSpellings (Dialect.html.respell markup).toList := by
  rw [toList_respell]
  exact htmlSpellings_orderly.keywordFree_onePass _

theorem keywordFree_bodyText {t : Target} (ht : t.dialect = .html) (markup : String) :
    KeywordFree htmlSpellings (t.bodyText (.markup markup)).toList := by
  have hfree := keywordFree_respell markup
  cases t with
  | react | nextjs => exact Dialect.noConfusion ht
  | vue | svelte | html => exact hfree
  | angular =>
    have hescaped := keywordFree_literalChar (keywordFree_escapeInterpolation hfree)
    rw [← escapeLiteral_of_no_brace (not_mem_escapeInterpolation _).2.1] at hescaped
    simpa [Target.bodyText, Body.render, Target.dialect] using hescaped

theorem keywordFree_bodyRegion {t : Target} (ht : t.dialect = .html) (markup : String) :
    KeywordFree htmlSpellings (t.bodyRegion (.markup markup)).toList := by
  have hfree := keywordFree_bodyText ht markup
  cases t with
  | svelte => exact hfree
  | _ => exact keywordFree_indent hfree _

/-- No keyword survives respelling, so a second time changes nothing, a text is unchanged just when
it has no keyword, and the files of the targets with HTML templates show none in their body. -/
theorem respell_keywordFree :
    (∀ markup, KeywordFree htmlSpellings (Dialect.html.respell markup).toList) ∧
    (∀ markup, Dialect.html.respell (Dialect.html.respell markup) = Dialect.html.respell markup) ∧
    (∀ markup, Dialect.html.respell markup = markup ↔ KeywordFree htmlSpellings markup.toList) ∧
    ∀ t : Target, t.dialect = .html → ∀ (name markup : String) (setting : Setting),
      ∃ file region, t.assemble ⟨name, .markup markup⟩ setting = .ok file ∧
        t.IsBodyRegion ⟨name, .markup markup⟩ setting file.content region ∧
        KeywordFree htmlSpellings region := by
  have hiff : ∀ markup,
      Dialect.html.respell markup = markup ↔ KeywordFree htmlSpellings markup.toList := by
    intro markup
    rw [← htmlSpellings_orderly.onePass_eq_self_iff, ← toList_respell, String.toList_inj]
  refine ⟨keywordFree_respell, fun markup => (hiff _).mpr (keywordFree_respell markup), hiff, ?_⟩
  intro t ht name markup setting
  obtain ⟨file, hfile, hregion⟩ := t.exists_bodyRegion ⟨name, .markup markup⟩ setting
  exact ⟨file, _, hfile, hregion, keywordFree_bodyRegion ht markup⟩

/-- A component file shows no keyword, though the comment it is made from has two. -/
theorem respell_keywordFree_angular :
    Target.angular.dialect = .html ∧
      ∃ file region,
        Target.angular.assemble
          ⟨"blog_list", .markup "\x7b/* Posts */\x7d\r\n<p className=\x60a\x60>"⟩
          ⟨"My App", false, {}, true⟩ = .ok file ∧
        Target.angular.IsBodyRegion
          ⟨"blog_list", .markup "\x7b/* Posts */\x7d\r\n<p className=\x60a\x60>"⟩
          ⟨"My App", false, {}, true⟩ file.content region ∧
        KeywordFree htmlSpellings region :=
  ⟨rfl, respell_keywordFree.2.2.2 .angular rfl _ _ _⟩

end Scaffold
