import Scaffold.Proofs.Respelling.OnePass
import Scaffold.Proofs.Text.Lines

/-!
# Texts without keywords

A pass of orderly rules leaves no keyword, and leaves a text alone that has none. What happens to
a respelled text on its way into a file, indenting and escaping, adds characters that no keyword
contains, and keeps it free of keywords.
-/

namespace Scaffold

open Text

variable {rules : List Rule}

theorem KeywordFree.of_isInfix {part cs : List Char} (h : KeywordFree rules cs)
    (hin : part <:+: cs) : KeywordFree rules part :=
  fun rule hr hpart => h rule hr (hpart.trans hin)

/-! ### The result of a pass -/

/-- A replaced keyword leaves none behind, and a copied character starts none: what follows it then
would have followed it before. -/
theorem Orderly.keywordFree_onePass (h : Orderly rules) (cs : List Char) :
    KeywordFree rules (onePass rules cs) := by
  intro q hq
  induction cs using h.pass_induction with
  | nil => simpa using h.keyword_ne_nil q hq
  | keyword r hr rest ih =>
    rw [h.onePass_keyword_append hr]
    exact fun hin => ih (infix_of_infix_append (h.leavesAlone r hr q hq).1 hin)
  | char c rest hstarts ih =>
    intro hin
    have hcopied := hin
    rw [onePass_cons hstarts, List.infix_cons_iff] at hcopied
    rcases hcopied with hp | hrest
    · rw [← onePass_cons hstarts] at hp
      exact hstarts q hq (prefix_of_prefix_onePass (fun r hr => (h.leavesAlone r hr q hq).2) hp)
    · exact ih hrest

theorem onePass_eq_self {cs : List Char} (h : KeywordFree rules cs) : onePass rules cs = cs := by
  induction cs with
  | nil => rfl
  | cons c rest ih =>
    rw [onePass_cons fun r hr hp => h r hr hp.isInfix,
      ih (h.of_isInfix (List.suffix_cons c rest).isInfix)]

theorem Orderly.onePass_eq_self_iff (h : Orderly rules) {cs : List Char} :
    onePass rules cs = cs ↔ KeywordFree rules cs := by
  constructor
  · intro heq
    rw [← heq]
    exact h.keywordFree_onePass cs
  · exact onePass_eq_self

theorem toList_respell (markup : String) :
    (Dialect.html.respell markup).toList = onePass htmlSpellings markup.toList := by
  rw [Dialect.respell, String.toList_ofList]
  exact foldl_respell_eq_onePass htmlSpellings_orderly markup.toList

/-! ### Indenting and escaping -/

/-- Replacing characters by texts that have no character of a keyword adds no keyword. -/
theorem KeywordFree.flatMap (hrules : ∀ r ∈ rules, r.keyword.toList ≠ []) {f : Char → List Char}
    (hf : ∀ c, f c = [c] ∨ f c ≠ [] ∧ ∀ r ∈ rules, ∀ d ∈ f c, d ∉ r.keyword.toList)
    {cs : List Char} (h : KeywordFree rules cs) : KeywordFree rules (cs.flatMap f) := by
  intro r hr hin
  refine h r hr (infix_of_infix_flatMap (hrules r hr) (fun c => ?_) hin)
  rcases hf c with heq | ⟨hne, hmem⟩
  · exact .inl heq
  · exact .inr ⟨hne, hmem r hr⟩

theorem keywordFree_indent {content : String} (h : KeywordFree htmlSpellings content.toList)
    (spaces : Nat) : KeywordFree htmlSpellings (indent content spaces).toList := by
  have hall : ∀ r ∈ htmlSpellings, r.keyword.toList.all (!isSpace ·) = true := by decide
  intro r hr hin
  have hne := htmlSpellings_orderly.keyword_ne_nil r hr
  have hink : ∀ c ∈ r.keyword.toList, isSpace c = false := fun c hc => by
    simpa using List.all_eq_true.mp (hall r hr) c hc
  exact h r hr (infix_of_infix_indent hne hink hin)

end Scaffold
