import Mathlib.Data.List.TakeWhile
import Scaffold.Indent
import Scaffold.Proofs.Text.Occurrence

/-!
# Lines

`lines` and `indent` are defined through a split at all line feeds. Proofs go along one line at a
time instead: a text is empty, a last line without a line feed, or a line, its line feed and a
text. `line_induction` is that principle and the lemmas under "Equations" are the values of `lines`
in its three cases.
-/

namespace Scaffold.Text

/-! ### Equations -/

theorem splitOn_eq_singleton {separates : Char → Bool} {cs : List Char}
    (h : ∀ c ∈ cs, separates c = false) : splitOn separates cs = [cs] := by
  induction cs with
  | nil => rfl
  | cons c rest ih =>
    have hc := h c List.mem_cons_self
    rw [splitOn, ih fun d hd => h d (List.mem_cons_of_mem c hd)]
    simp [hc]

theorem splitOn_append_cons {separates : Char → Bool} {line : List Char} {d : Char}
    (h : ∀ c ∈ line, separates c = false) (hd : separates d = true) (rest : List Char) :
    splitOn separates (line ++ d :: rest) = line :: splitOn separates rest := by
  induction line with
  | nil =>
    rw [List.nil_append, splitOn]
    cases hs : splitOn separates rest with
    | nil => exact absurd hs (splitOn_ne_nil separates rest)
    | cons piece more => simp [hd]
  | cons c line ih =>
    have hc := h c List.mem_cons_self
    rw [List.cons_append, splitOn, ih fun e he => h e (List.mem_cons_of_mem c he)]
    simp [hc]

@[simp] theorem lines_nil : lines [] = [] := rfl

/-- A line without a line feed behind it is the last one, and keeps its carriage return. -/
theorem lines_of_not_mem {line : List Char} (h : '\n' ∉ line) (hne : line ≠ []) :
    lines line = [line] := by
  have hsplit : splitOn (· == '\n') line = [line] :=
    splitOn_eq_singleton fun c hc => beq_false_of_ne fun heq => h (heq ▸ hc)
  simp [lines, hsplit, hne]

theorem lines_append_newline {line : List Char} (h : '\n' ∉ line) (rest : List Char) :
    lines (line ++ '\n' :: rest) = chompReturn line :: lines rest := by
  have hline : ∀ c ∈ line, (c == '\n') = false := fun c hc =>
    beq_false_of_ne fun heq => h (heq ▸ hc)
  have hsplit : splitOn (· == '\n') (line ++ '\n' :: rest) = line :: splitOn (· == '\n') rest :=
    splitOn_append_cons hline rfl rest
  have hne := splitOn_ne_nil (· == '\n') rest
  simp [lines, hsplit, List.dropLast_cons_of_ne_nil hne, List.getLast?_cons_of_ne_nil hne]

/-- Induction on a text piece by piece: it has no separator, or is a piece, its separator and a
text. -/
theorem piece_induction (separates : Char → Bool) {motive : List Char → Prop}
    (last : ∀ piece, (∀ c ∈ piece, separates c = false) → motive piece)
    (separator : ∀ piece d rest, (∀ c ∈ piece, separates c = false) → separates d = true →
      motive rest → motive (piece ++ d :: rest)) (cs : List Char) : motive cs := by
  induction hn : cs.length using Nat.strongRecOn generalizing cs with
  | _ n ih =>
    have hpiece : ∀ c ∈ cs.takeWhile (!separates ·), separates c = false := fun c hc => by
      simpa using List.mem_takeWhile_imp hc
    have hwhole : cs.takeWhile (!separates ·) ++ cs.dropWhile (!separates ·) = cs :=
      List.takeWhile_append_dropWhile
    have hstop := List.head?_dropWhile_not (!separates ·) cs
    cases hrest : cs.dropWhile (!separates ·) with
    | nil =>
      rw [hrest, List.append_nil] at hwhole
      exact hwhole ▸ last _ hpiece
    | cons d rest =>
      have hd : separates d = true := by simpa [hrest] using hstop
      rw [hrest] at hwhole
      rw [← hwhole]
      refine separator _ d rest hpiece hd (ih rest.length ?_ rest rfl)
      rw [← hn, ← hwhole, List.length_append, List.length_cons]
      omega

/-- Induction on a text line by line. -/
theorem line_induction {motive : List Char → Prop} (nil : motive [])
    (last : ∀ line, '\n' ∉ line → line ≠ [] → motive line)
    (line : ∀ line rest, '\n' ∉ line → motive rest → motive (line ++ '\n' :: rest))
    (cs : List Char) : motive cs := by
  have hline : ∀ {piece : List Char}, (∀ c ∈ piece, (c == '\n') = false) → '\n' ∉ piece :=
    fun hpiece hmem => Bool.noConfusion (hpiece '\n' hmem)
  refine piece_induction (· == '\n') (fun piece hpiece => ?_)
    (fun piece d rest hpiece hd ih => ?_) cs
  · rcases eq_or_ne piece [] with rfl | hne
    · exact nil
    · exact last piece (hline hpiece) hne
  · obtain rfl : d = '\n' := beq_iff_eq.mp hd
    exact line piece rest (hline hpiece) ih

theorem lines_eq_nil_iff {cs : List Char} : lines cs = [] ↔ cs = [] := by
  cases cs using line_induction with
  | nil => simp
  | last line hline hne => simp [lines_of_not_mem hline hne, hne]
  | line line rest hline => simp [lines_append_newline hline]

/-! ### Carriage returns -/

theorem chompReturn_eq_self {line : List Char} (h : line.getLast? ≠ some '\r') :
    chompReturn line = line := by
  rw [chompReturn, if_neg h]

theorem chompReturn_concat (line : List Char) : chompReturn (line ++ ['\r']) = line := by
  rw [chompReturn, if_pos List.getLast?_concat, List.dropLast_concat]

theorem chompReturn_isPrefix (line : List Char) : chompReturn line <+: line := by
  unfold chompReturn
  split
  · exact List.dropLast_prefix line
  · exact List.prefix_rfl

/-! ### Cutting a text into lines -/

/-- A text and its lines. A line ends at a line feed or at a carriage return and a line feed, and
what follows the last of them is a line unless it is empty. -/
inductive HasLines : List Char → List (List Char) → Prop
  | nil : HasLines [] []
  | last {line : List Char} : '\n' ∉ line → line ≠ [] → HasLines line [line]
  | feed {line rest : List Char} {ls : List (List Char)} : '\n' ∉ line →
      line.getLast? ≠ some '\r' → HasLines rest ls → HasLines (line ++ '\n' :: rest) (line :: ls)
  | returnFeed {line rest : List Char} {ls : List (List Char)} : '\n' ∉ line →
      HasLines rest ls → HasLines (line ++ '\r' :: '\n' :: rest) (line :: ls)

theorem HasLines.eq_lines {cs : List Char} {ls : List (List Char)} (h : HasLines cs ls) :
    ls = lines cs := by
  induction h with
  | nil => rfl
  | last hline hne => rw [lines_of_not_mem hline hne]
  | feed hline hreturn _ ih => rw [lines_append_newline hline, chompReturn_eq_self hreturn, ih]
  | @returnFeed line rest ls hline _ ih =>
    have hconcat : '\n' ∉ line ++ ['\r'] := by simp [hline]
    rw [List.append_cons, lines_append_newline hconcat, chompReturn_concat, ih]

theorem hasLines_lines (cs : List Char) : HasLines cs (lines cs) := by
  induction cs using line_induction with
  | nil => exact .nil
  | last line hline hne =>
    rw [lines_of_not_mem hline hne]
    exact .last hline hne
  | line line rest hline ih =>
    rw [lines_append_newline hline]
    by_cases hreturn : line.getLast? = some '\r'
    · obtain ⟨front, rfl⟩ := List.getLast?_eq_some_iff.mp hreturn
      rw [chompReturn_concat, ← List.append_cons]
      exact .returnFeed (fun hmem => hline (List.mem_append_left _ hmem)) ih
    · rw [chompReturn_eq_self hreturn]
      exact .feed hline hreturn ih

/-- A text has its lines in one way. -/
theorem hasLines_iff {cs : List Char} {ls : List (List Char)} :
    HasLines cs ls ↔ ls = lines cs := by
  constructor
  · exact HasLines.eq_lines
  · rintro rfl
    exact hasLines_lines cs

theorem newline_notMem_of_mem_lines {cs line : List Char} (h : line ∈ lines cs) : '\n' ∉ line := by
  induction cs using line_induction with
  | nil => simp at h
  | last l hl hne =>
    rw [lines_of_not_mem hl hne, List.mem_singleton] at h
    exact h ▸ hl
  | line l rest hl ih =>
    rw [lines_append_newline hl, List.mem_cons] at h
    rcases h with rfl | h
    · exact fun hmem => hl ((chompReturn_isPrefix l).subset hmem)
    · exact ih h

/-! ### What is in a line -/

/-- A line stands in the text as it is. -/
theorem infix_of_mem_lines {cs line : List Char} (h : line ∈ lines cs) : line <:+: cs := by
  induction cs using line_induction with
  | nil => simp at h
  | last l hl hne =>
    rw [lines_of_not_mem hl hne, List.mem_singleton] at h
    exact h ▸ List.infix_rfl
  | line l rest hl ih =>
    rw [lines_append_newline hl, List.mem_cons] at h
    rcases h with rfl | h
    · exact ((chompReturn_isPrefix l).trans (List.prefix_append l _)).isInfix
    · exact ((ih h).trans (List.suffix_cons '\n' rest).isInfix).trans
        (List.suffix_append l _).isInfix

/-- A pattern without a line feed that occurs in joined lines occurs in one of them. -/
theorem infix_of_infix_joined {pattern : List Char} (hne : pattern ≠ []) (hp : '\n' ∉ pattern)
    {ls : List (List Char)} (h : pattern <:+: ['\n'].intercalate ls) :
    ∃ line ∈ ls, pattern <:+: line := by
  induction ls with
  | nil => exact absurd (List.infix_nil.mp h) hne
  | cons line ls ih =>
    cases ls with
    | nil => exact ⟨line, List.mem_cons_self, by simpa using h⟩
    | cons next ls =>
      rw [List.intercalate_cons_cons, List.append_assoc, List.singleton_append] at h
      rcases infix_append_cons hne hp h with hin | hin
      · exact ⟨line, List.mem_cons_self, hin⟩
      · obtain ⟨l, hl, hin⟩ := ih hin
        exact ⟨l, List.mem_cons_of_mem line hl, hin⟩

/-- The text has none of the characters that a line may end with. -/
def OneLine (cs : List Char) : Prop := '\n' ∉ cs ∧ '\r' ∉ cs

instance : DecidablePred OneLine := fun _ => inferInstanceAs (Decidable (_ ∧ _))

theorem infix_chompReturn {pattern line : List Char} (hne : pattern ≠ []) (hp : '\r' ∉ pattern)
    (h : pattern <:+: line) : pattern <:+: chompReturn line := by
  by_cases hreturn : line.getLast? = some '\r'
  · obtain ⟨front, rfl⟩ := List.getLast?_eq_some_iff.mp hreturn
    rw [chompReturn_concat]
    rcases infix_append_cons hne hp h with hfront | hnil
    · exact hfront
    · exact absurd (List.infix_nil.mp hnil) hne
  · rwa [chompReturn_eq_self hreturn]

/-- What has no line end occurs in one of the lines. -/
theorem OneLine.exists_line {pattern : List Char} (hp : OneLine pattern) (hne : pattern ≠ [])
    {cs : List Char} (h : pattern <:+: cs) : ∃ line ∈ lines cs, pattern <:+: line := by
  induction cs using line_induction with
  | nil => exact absurd (List.infix_nil.mp h) hne
  | last line hline hne' =>
    rw [lines_of_not_mem hline hne']
    exact ⟨line, List.mem_singleton_self line, h⟩
  | line line rest hline ih =>
    rw [lines_append_newline hline]
    rcases infix_append_cons hne hp.1 h with hin | hin
    · exact ⟨chompReturn line, List.mem_cons_self, infix_chompReturn hne hp.2 hin⟩
    · obtain ⟨found, hfound, hin⟩ := ih hin
      exact ⟨found, List.mem_cons_of_mem _ hfound, hin⟩

theorem infix_joined {line : List Char} {ls : List (List Char)} (h : line ∈ ls) :
    line <:+: ['\n'].intercalate ls := by
  induction ls with
  | nil => cases h
  | cons first ls ih =>
    cases ls with
    | nil =>
      rw [List.mem_singleton] at h
      subst h
      simp
    | cons next ls =>
      rw [List.intercalate_cons_cons, List.append_assoc]
      rcases List.mem_cons.mp h with rfl | hrest
      · exact (List.prefix_append _ _).isInfix
      · exact (ih hrest).trans ((List.suffix_append _ _).trans (List.suffix_append _ _)).isInfix

end Scaffold.Text

/-! ### Indenting -/

namespace Scaffold

open Text

theorem toList_indent (content : String) (spaces : Nat) :
    (indent content spaces).toList =
      ['\n'].intercalate ((lines content.toList).map (indentLine spaces)) := by
  simp [indent]

/-- Indenting adds blanks, so it creates no occurrence of a pattern without white space. -/
theorem infix_of_infix_indent {pattern : List Char} (hne : pattern ≠ [])
    (hp : ∀ c ∈ pattern, isSpace c = false) {content : String} {spaces : Nat}
    (h : pattern <:+: (indent content spaces).toList) : pattern <:+: content.toList := by
  have hnewline : '\n' ∉ pattern := fun hmem => Bool.noConfusion (hp '\n' hmem)
  have hblank : ' ' ∉ pattern := fun hmem => Bool.noConfusion (hp ' ' hmem)
  rw [toList_indent] at h
  obtain ⟨indented, hmem, hin⟩ := infix_of_infix_joined hne hnewline h
  obtain ⟨line, hline, rfl⟩ := List.mem_map.mp hmem
  refine List.IsInfix.trans ?_ (infix_of_mem_lines hline)
  unfold indentLine at hin
  split at hin
  · exact hin
  · refine infix_of_infix_append (startsNowhereIn_of_not_mem hne fun c hc => ?_) hin
    rwa [List.eq_of_mem_replicate hc]

/-- Indenting keeps what stands on one line. -/
theorem infix_indent {pattern : List Char} (hp : OneLine pattern) {content : String}
    (h : pattern <:+: content.toList) (spaces : Nat) :
    pattern <:+: (indent content spaces).toList := by
  rcases eq_or_ne pattern [] with rfl | hne
  · exact List.nil_infix
  obtain ⟨line, hline, hin⟩ := hp.exists_line hne h
  have hindented : line <:+: indentLine spaces line := by
    unfold indentLine
    split
    · exact List.infix_rfl
    · exact (List.suffix_append _ line).isInfix
  rw [toList_indent]
  exact (hin.trans hindented).trans (infix_joined (List.mem_map_of_mem hline))

end Scaffold
