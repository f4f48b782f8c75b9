import Scaffold.Proofs.Text.Lines

/-!
# Rewriting between blanks

A rewriting of texts that copies white space, and makes texts without white space of what stands
between, finds lines and blank lines where they were. So it may go line by line, and it does not
matter whether a text is indented before it or afterwards (`KeepsWords.toList_indent`). An escape
that goes character by character is one such rewriting (`KeepsSpace.keepsWords`).
-/

namespace Scaffold.Text

/-- White space is copied, and what stands between is rewritten by itself, to something without
white space. -/
structure KeepsWords (g : List Char → List Char) : Prop where
  eq_nil_iff : ∀ {cs}, g cs = [] ↔ cs = []
  space : ∀ front c rest, isSpace c = true → g (front ++ c :: rest) = g front ++ c :: g rest
  ink : ∀ word, (∀ c ∈ word, isSpace c = false) → ∀ c ∈ g word, isSpace c = false

/-- A text without white space has no character of it. -/
theorem notMem_of_ink {c : Char} (hc : isSpace c = true) {word : List Char}
    (hword : ∀ d ∈ word, isSpace d = false) : c ∉ word := by
  intro hmem
  rw [hword c hmem] at hc
  cases hc

theorem isBlank_of_ink {word : List Char} (hword : ∀ c ∈ word, isSpace c = false) :
    isBlank word = word.isEmpty := by
  cases word with
  | nil => rfl
  | cons c rest => simp [isBlank, hword c List.mem_cons_self]

namespace KeepsWords

variable {g : List Char → List Char} {cs : List Char} {c : Char}

/-! ### White space -/

theorem nil (hg : KeepsWords g) : g [] = [] := hg.eq_nil_iff.mpr rfl

theorem cons (hg : KeepsWords g) (hc : isSpace c = true) (rest : List Char) :
    g (c :: rest) = c :: g rest := by
  have hsplit := hg.space [] c rest hc
  rwa [hg.nil, List.nil_append, List.nil_append] at hsplit

theorem mem_iff (hg : KeepsWords g) (hc : isSpace c = true) : c ∈ g cs ↔ c ∈ cs := by
  induction cs using piece_induction isSpace with
  | last word hword =>
    exact iff_of_false (notMem_of_ink hc (hg.ink word hword)) (notMem_of_ink hc hword)
  | separator word d rest hword hd ih =>
    simp [hg.space word d rest hd, notMem_of_ink hc (hg.ink word hword), notMem_of_ink hc hword, ih]

theorem isBlank_eq (hg : KeepsWords g) (cs : List Char) : isBlank (g cs) = isBlank cs := by
  have hblank : ∀ word, (∀ c ∈ word, isSpace c = false) → isBlank (g word) = isBlank word := by
    intro word hword
    rw [isBlank_of_ink (hg.ink word hword), isBlank_of_ink hword, Bool.eq_iff_iff,
      List.isEmpty_iff, List.isEmpty_iff, hg.eq_nil_iff]
  induction cs using piece_induction isSpace with
  | last word hword => exact hblank word hword
  | separator word d rest hword hd ih =>
    have hword' := hblank word hword
    simp only [isBlank, List.all_append, List.all_cons] at hword' ih ⊢
    rw [hg.space word d rest hd, List.all_append, List.all_cons, hword', ih]

theorem getLast?_iff (hg : KeepsWords g) (hc : isSpace c = true) :
    (g cs).getLast? = some c ↔ cs.getLast? = some c := by
  induction cs using piece_induction isSpace with
  | last word hword =>
    have hnot : ∀ part : List Char, (∀ d ∈ part, isSpace d = false) → part.getLast? ≠ some c :=
      fun part hpart hlast => notMem_of_ink hc hpart (List.mem_of_getLast? hlast)
    exact iff_of_false (hnot _ (hg.ink word hword)) (hnot word hword)
  | separator word d rest hword hd ih =>
    rw [hg.space word d rest hd, List.getLast?_append_of_ne_nil _ (List.cons_ne_nil _ _),
      List.getLast?_append_of_ne_nil _ (List.cons_ne_nil _ _)]
    rcases eq_or_ne rest [] with rfl | hne
    · rw [hg.nil]
    · rw [List.getLast?_cons_of_ne_nil (hg.eq_nil_iff.not.mpr hne),
        List.getLast?_cons_of_ne_nil hne, ih]

/-! ### Lines -/

theorem chompReturn_eq (hg : KeepsWords g) (line : List Char) :
    chompReturn (g line) = g (chompReturn line) := by
  by_cases hreturn : line.getLast? = some '\r'
  · obtain ⟨front, rfl⟩ := List.getLast?_eq_some_iff.mp hreturn
    rw [hg.space front '\r' [] rfl, hg.nil, chompReturn_concat, chompReturn_concat]
  · rw [chompReturn_eq_self hreturn, chompReturn_eq_self ((hg.getLast?_iff rfl).not.mpr hreturn)]

theorem lines_eq (hg : KeepsWords g) (cs : List Char) : lines (g cs) = (lines cs).map g := by
  induction cs using line_induction with
  | nil => rw [hg.nil, lines_nil, List.map_nil]
  | last line hline hne =>
    rw [lines_of_not_mem hline hne, List.map_singleton,
      lines_of_not_mem ((hg.mem_iff rfl).not.mpr hline) (hg.eq_nil_iff.not.mpr hne)]
  | line line rest hline ih =>
    rw [hg.space line '\n' rest rfl, lines_append_newline ((hg.mem_iff rfl).not.mpr hline),
      lines_append_newline hline, ih, List.map_cons, hg.chompReturn_eq]

theorem joined_eq (hg : KeepsWords g) (ls : List (List Char)) :
    g (['\n'].intercalate ls) = ['\n'].intercalate (ls.map g) := by
  induction ls with
  | nil => exact hg.nil
  | cons line ls ih =>
    cases ls with
    | nil => simp
    | cons next ls =>
      rw [List.map_cons] at ih ⊢
      rw [List.map_cons, List.intercalate_cons_cons, List.intercalate_cons_cons, ← ih,
        List.append_assoc, List.append_assoc]
      exact hg.space line '\n' _ rfl

/-! ### Indenting -/

theorem padded_eq (hg : KeepsWords g) (spaces : Nat) (line : List Char) :
    g (List.replicate spaces ' ' ++ line) = List.replicate spaces ' ' ++ g line := by
  induction spaces with
  | zero => rfl
  | succ n ih => rw [List.replicate_succ, List.cons_append, hg.cons rfl, ih, List.cons_append]

theorem indentLine_eq (hg : KeepsWords g) (spaces : Nat) (line : List Char) :
    indentLine spaces (g line) = g (indentLine spaces line) := by
  unfold indentLine
  rw [hg.isBlank_eq]
  split
  · rfl
  · rw [hg.padded_eq]

/-- Rewriting and indenting may go in either order. -/
theorem toList_indent (hg : KeepsWords g) {content rewritten : String}
    (h : rewritten.toList = g content.toList) (spaces : Nat) :
    (indent rewritten spaces).toList = g (indent content spaces).toList := by
  rw [Scaffold.toList_indent, Scaffold.toList_indent, h, hg.lines_eq, hg.joined_eq, List.map_map,
    List.map_map]
  congr 2
  funext line
  exact hg.indentLine_eq spaces line

end KeepsWords

/-! ### Replacing characters -/

/-- Each character of white space stands for itself, any other for a text without white space. -/
structure KeepsSpace (f : Char → List Char) : Prop where
  space : ∀ c, isSpace c = true → f c = [c]
  ne_nil : ∀ c, f c ≠ []
  ink : ∀ c, isSpace c = false → ∀ d ∈ f c, isSpace d = false

namespace KeepsSpace

variable {f : Char → List Char}

theorem keepsWords (hf : KeepsSpace f) : KeepsWords (·.flatMap f) where
  eq_nil_iff {cs} := by
    cases cs with
    | nil => simp
    | cons c rest => simp [hf.ne_nil c]
  space front c rest hc := by simp [hf.space c hc]
  ink word hword d hd := by
    obtain ⟨c, hc, hmem⟩ := List.mem_flatMap.mp hd
    exact hf.ink c (hword c hc) d hmem

theorem mem_flatMap_iff (hf : KeepsSpace f) {c : Char} (hc : isSpace c = true) {cs : List Char} :
    c ∈ cs.flatMap f ↔ c ∈ cs :=
  hf.keepsWords.mem_iff hc

end KeepsSpace

end Scaffold.Text

namespace Scaffold

open Text

/-- Escaping and indenting may go in either order. -/
theorem toList_indent_flatMap {f : Char → List Char} (hf : KeepsSpace f) (cs : List Char)
    (spaces : Nat) :
    (indent (String.ofList (cs.flatMap f)) spaces).toList =
      (indent (String.ofList cs) spaces).toList.flatMap f :=
  hf.keepsWords.toList_indent (by rw [String.toList_ofList, String.toList_ofList]) spaces

end Scaffold
