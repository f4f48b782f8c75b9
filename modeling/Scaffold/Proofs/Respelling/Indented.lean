import Mathlib.Data.List.Forall2
import Scaffold.Proofs.Respelling.KeywordFree
import Scaffold.Proofs.Text.Words

/-!
# Indenting and respelling

Indenting keeps every line of a text: splitting the indented text at its line feeds gives the lines
back, each that is not blank behind the blanks. And it does not matter whether a text is respelled
before it is indented or afterwards,

    respell (indent content spaces) = indent (respell content) spaces,

for no keyword and no spelling has white space: a pass over the text copies all of it, makes no line
blank and ends none.
-/

namespace Scaffold

open Text

/-! ### Lines of an indented text -/

/-- A blank line is left unchanged, any other is put behind `spaces` blanks. -/
def IsIndentOf (spaces : Nat) (line indented : List Char) : Prop :=
  (∀ c ∈ line, isSpace c = true) ∧ indented = line ∨
    (∃ c ∈ line, isSpace c = false) ∧ indented = List.replicate spaces ' ' ++ line

/-- Takes the blanks off again, from a line that is not blank. -/
def unindentLine (spaces : Nat) (line : List Char) : List Char :=
  if isBlank line then line else line.drop spaces

theorem isIndentOf_indentLine (spaces : Nat) (line : List Char) :
    IsIndentOf spaces line (indentLine spaces line) := by
  unfold indentLine
  split
  · next hblank => exact .inl ⟨isBlank_iff.mp hblank, rfl⟩
  · next hblank =>
    have hink : ∃ c ∈ line, isSpace c = false := by simpa [isBlank] using hblank
    exact .inr ⟨hink, rfl⟩

theorem unindentLine_indentLine (spaces : Nat) (line : List Char) :
    unindentLine spaces (indentLine spaces line) = line := by
  unfold indentLine
  split
  · next hblank => rw [unindentLine, if_pos hblank]
  · next hblank =>
    have hpadded : ¬isBlank (List.replicate spaces ' ' ++ line) = true := by
      rw [isBlank_iff] at hblank ⊢
      exact fun hall => hblank fun c hc => hall c (List.mem_append_right _ hc)
    rw [unindentLine, if_neg hpadded, List.drop_left' List.length_replicate]

theorem splitOn_indent {content : String} (h : lines content.toList ≠ []) (spaces : Nat) :
    (indent content spaces).toList.splitOn '\n' =
      (lines content.toList).map (indentLine spaces) := by
  rw [toList_indent]
  refine List.splitOn_intercalate '\n' (fun indented hindented => ?_) (by simpa using h)
  obtain ⟨line, hline, rfl⟩ := List.mem_map.mp hindented
  have hnewline := newline_notMem_of_mem_lines hline
  unfold indentLine
  split
  · exact hnewline
  · simp [hnewline]

/-! ### Respelling -/

section Pass

variable {rules : List Rule}

/-- No white space is in a keyword or a spelling. -/
def Inked (rules : List Rule) : Prop :=
  ∀ r ∈ rules, ∀ c ∈ r.keyword.toList ++ r.spelling.toList, isSpace c = false

theorem htmlSpellings_inked : Inked htmlSpellings := by
  have hall : ∀ r ∈ htmlSpellings,
      (r.keyword.toList ++ r.spelling.toList).all (!isSpace ·) = true := by decide
  intro r hr c hc
  simpa using List.all_eq_true.mp (hall r hr) c hc

/-- What a pass writes it has copied, or it is of a spelling. -/
theorem Orderly.mem_onePass (h : Orderly rules) {c : Char} {cs : List Char}
    (hc : c ∈ onePass rules cs) : c ∈ cs ∨ ∃ r ∈ rules, c ∈ r.spelling.toList := by
  induction cs using h.pass_induction with
  | nil => exact .inl hc
  | keyword r hr rest ih =>
    rw [h.onePass_keyword_append hr, List.mem_append] at hc
    rcases hc with hc | hc
    · exact .inr ⟨r, hr, hc⟩
    · exact (ih hc).imp_left (List.mem_append_right _)
  | char d rest hstarts ih =>
    rw [onePass_cons hstarts, List.mem_cons] at hc
    rcases hc with rfl | hc
    · exact .inl List.mem_cons_self
    · exact (ih hc).imp_left (List.mem_cons_of_mem d)

theorem Orderly.keepsWords_onePass (h : Orderly rules) (hink : Inked rules) :
    KeepsWords (onePass rules) where
  eq_nil_iff := h.onePass_eq_nil_iff
  space front c rest hc := by
    have hcuts : Cuts rules c := by
      intro r hr hmem
      exact notMem_of_ink hc (hink r hr) (List.mem_append_left _ (List.mem_of_mem_tail hmem))
    have hstarts : ∀ r ∈ rules, ¬r.keyword.toList <+: c :: rest := by
      intro r hr hp
      obtain ⟨d, more, hkeyword⟩ := List.exists_cons_of_ne_nil (h.keyword_ne_nil r hr)
      rw [hkeyword, List.cons_prefix_cons] at hp
      refine notMem_of_ink hc (hink r hr) (List.mem_append_left _ ?_)
      rw [hkeyword, hp.1]
      exact List.mem_cons_self
    rw [h.onePass_append_cons hcuts, onePass_cons hstarts]
  ink word hword c hc := by
    rcases h.mem_onePass hc with hmem | ⟨r, hr, hmem⟩
    · exact hword c hmem
    · exact hink r hr c (List.mem_append_right _ hmem)

end Pass

theorem respell_indent (content : String) (spaces : Nat) :
    Dialect.html.respell (indent content spaces) = indent (Dialect.html.respell content) spaces := by
  have hwords : KeepsWords (onePass htmlSpellings) :=
    htmlSpellings_orderly.keepsWords_onePass htmlSpellings_inked
  rw [← String.toList_inj, toList_respell]
  exact (hwords.toList_indent (toList_respell content) spaces).symm

/-! ### Both -/

/-- Between its line feeds an indented text has the lines of the text, blank ones unchanged and the
others behind the blanks, so that they are had back by taking the blanks off. A text without lines
stays empty. And respelling and indenting may go in either order. -/
theorem indent_keepsLines (content : String) (spaces : Nat) :
    (∃ ls, (∀ other, HasLines content.toList other ↔ other = ls) ∧
      (ls ≠ [] →
        ls.Forall₂ (IsIndentOf spaces) ((indent content spaces).toList.splitOn '\n') ∧
        ((indent content spaces).toList.splitOn '\n').map (unindentLine spaces) = ls)) ∧
    indent "" spaces = "" ∧
    Dialect.html.respell (indent content spaces) =
      indent (Dialect.html.respell content) spaces := by
  refine ⟨⟨lines content.toList, fun _ => hasLines_iff, fun hne => ?_⟩, rfl,
    respell_indent content spaces⟩
  rw [splitOn_indent hne]
  constructor
  · rw [List.forall₂_map_right_iff, List.forall₂_same]
    exact fun line _ => isIndentOf_indentLine spaces line
  · rw [List.map_map]
    calc (lines content.toList).map (unindentLine spaces ∘ indentLine spaces)
        = (lines content.toList).map id :=
          List.map_congr_left fun line _ => unindentLine_indentLine spaces line
      _ = lines content.toList := List.map_id _

/-- Lines that end with a carriage return and a line feed, one of them blank, and a carriage return
behind the last. -/
theorem indent_keepsLines_returns :
    let content := "<p>\r\n\u00a0\r\n\x7b/* a */\x7d\r"
    let ls := ["<p>".toList, "\u00a0".toList, "\x7b/* a */\x7d\r".toList]
    HasLines content.toList ls ∧ ls ≠ [] ∧
      ls.Forall₂ (IsIndentOf 2) ((indent content 2).toList.splitOn '\n') ∧
      ((indent content 2).toList.splitOn '\n').map (unindentLine 2) = ls := by
  intro content ls
  have hlines : HasLines content.toList ls := hasLines_iff.mpr (by decide)
  have hne : ls ≠ [] := by decide
  obtain ⟨⟨found, hunique, hkept⟩, -⟩ := indent_keepsLines content 2
  obtain rfl : ls = found := (hunique ls).mp hlines
  exact ⟨hlines, hne, hkept hne⟩

end Scaffold
