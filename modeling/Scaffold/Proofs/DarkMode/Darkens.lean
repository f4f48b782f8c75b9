import Scaffold.Proofs.Page.Plain
import Scaffold.Proofs.Text.Words

/-!
# Texts with dark classes added

`Darkens keyword n light dark` says that `dark` is `light` with `n` runs of dark classes added, each
at the end of a class list in a tag. A tag up to its class list has no line end and no bracket, so
the relation is kept by what happens to a body on its way into a file: the parts of a text that the
printer joins, the escapes, and the indenting, which goes line by line.
-/

namespace Scaffold

open Text

/-! ### Places in a text -/

/-- Inside a value: no quote closes it, and neither a bracket nor a line end is in it. -/
def InsideValue (cs : List Char) : Prop := ∀ c ∈ cs, c ∉ ['"', '<', '>', '\n', '\r']

/-- Inside a tag and in none of its values: what quote opens a value, another one closes. -/
structure InsideTag (cs : List Char) : Prop where
  noSign : ∀ c ∈ cs, c ∉ ['<', '>', '\n', '\r']
  closed : cs.count '"' % 2 = 0

/-- A tag up to a place in its class list, the attribute with `keyword`. -/
def opensClassList (keyword between value : List Char) : List Char :=
  '<' :: (between ++ ' ' :: (keyword ++ '=' :: '"' :: value))

theorem insideValue_of_plain {cs : List Char} (h : ∀ c ∈ cs, isPlainChar c = true) :
    InsideValue cs := by
  intro c hc hsign
  have hplain := h c hc
  simp only [List.mem_cons, List.not_mem_nil, or_false] at hsign
  rcases hsign with rfl | rfl | rfl | rfl | rfl <;> exact absurd hplain (by decide)

theorem InsideValue.insideTag {cs : List Char} (h : InsideValue cs) : InsideTag cs := by
  refine ⟨fun c hc hsign => h c hc (List.mem_cons_of_mem _ hsign), ?_⟩
  have hquote : '"' ∉ cs := fun hmem => h '"' hmem List.mem_cons_self
  rw [List.count_eq_zero_of_not_mem hquote]

theorem InsideTag.append {u v : List Char} (hu : InsideTag u) (hv : InsideTag v) :
    InsideTag (u ++ v) := by
  refine ⟨List.forall_mem_append.mpr ⟨hu.noSign, hv.noSign⟩, ?_⟩
  have hcount := hu.closed
  have hcount' := hv.closed
  rw [List.count_append]
  omega

/-! ### The relation -/

inductive Darkens (keyword : List Char) : Nat → List Char → List Char → Prop
  | nil : Darkens keyword 0 [] []
  | char {n : Nat} {light dark : List Char} (c : Char) (h : Darkens keyword n light dark) :
    Darkens keyword n (c :: light) (c :: dark)
  | run {n : Nat} {light dark between value run : List Char} (hbetween : InsideTag between)
    (hvalue : InsideValue value) (hrun : IsDarkRun run) (h : Darkens keyword n light dark) :
    Darkens keyword (n + 1) (opensClassList keyword between value ++ '"' :: light)
      (opensClassList keyword between value ++ run ++ '"' :: dark)

namespace Darkens

variable {keyword light dark light' dark' : List Char} {m n : Nat}

theorem refl (cs : List Char) : Darkens keyword 0 cs cs := by
  induction cs with
  | nil => exact .nil
  | cons c cs ih => exact .char c ih

theorem append (h : Darkens keyword m light dark) (h' : Darkens keyword n light' dark') :
    Darkens keyword (m + n) (light ++ light') (dark ++ dark') := by
  induction h with
  | nil => simpa using h'
  | char c _ ih => exact .char c ih
  | run hbetween hvalue hrun _ ih =>
    rw [Nat.add_right_comm]
    simpa using Darkens.run hbetween hvalue hrun ih

theorem append_left (front : List Char) (h : Darkens keyword n light dark) :
    Darkens keyword n (front ++ light) (front ++ dark) := by
  simpa using (refl front).append h

theorem append_right (h : Darkens keyword n light dark) (back : List Char) :
    Darkens keyword n (light ++ back) (dark ++ back) :=
  h.append (refl back)

/-! ### Ends and lines -/

/-- Both texts end alike, and a run is added in front of the quote that closes its value. -/
theorem cases_end (h : Darkens keyword n light dark) :
    (light = [] ∧ dark = []) ∨ ∃ c front front', light = front ++ [c] ∧ dark = front' ++ [c] ∧
      (c = '"' ∨ Darkens keyword n front front') := by
  induction h with
  | nil => exact .inl ⟨rfl, rfl⟩
  | char c h ih =>
    right
    rcases ih with ⟨rfl, rfl⟩ | ⟨d, front, front', rfl, rfl, hd⟩
    · exact ⟨c, [], [], rfl, rfl, .inr h⟩
    · exact ⟨d, c :: front, c :: front', rfl, rfl, hd.imp_right (.char c)⟩
  | @run n light dark between value run hbetween hvalue hrun h ih =>
    right
    -- with nothing behind the quote of the class list, the quote is the end
    rcases ih with ⟨rfl, rfl⟩ | ⟨d, front, front', rfl, rfl, hd⟩
    · exact ⟨'"', opensClassList keyword between value,
        opensClassList keyword between value ++ run, rfl, rfl, .inl rfl⟩
    · refine ⟨d, opensClassList keyword between value ++ '"' :: front,
        opensClassList keyword between value ++ run ++ '"' :: front', by simp, by simp, ?_⟩
      exact hd.imp_right (.run hbetween hvalue hrun)

theorem eq_nil_iff (h : Darkens keyword n light dark) : light = [] ↔ dark = [] := by
  rcases h.cases_end with ⟨rfl, rfl⟩ | ⟨c, front, front', rfl, rfl, -⟩ <;> simp

theorem of_append_newline (h : Darkens keyword n (light ++ ['\n']) (dark ++ ['\n'])) :
    Darkens keyword n light dark := by
  rcases h.cases_end with ⟨hnil, -⟩ | ⟨c, front, front', hlight, hdark, hc⟩
  · simp at hnil
  · obtain ⟨rfl, heq⟩ := List.append_inj' hlight rfl
    obtain ⟨rfl, -⟩ := List.append_inj' hdark rfl
    have hnewline : c ≠ '"' := List.singleton_inj.mp heq ▸ by decide
    exact hc.resolve_left hnewline

theorem chompReturn (h : Darkens keyword n light dark) :
    Darkens keyword n (chompReturn light) (chompReturn dark) := by
  rcases h.cases_end with ⟨rfl, rfl⟩ | ⟨c, front, front', rfl, rfl, hc⟩
  · exact h
  · by_cases hreturn : c = '\r'
    · -- what is dropped is no quote, so no run stands in front of it
      have hfront : Darkens keyword n front front' :=
        hc.resolve_left fun hquote => absurd (hreturn.symm.trans hquote) (by decide)
      simpa [Text.chompReturn, hreturn] using hfront
    · simpa [Text.chompReturn, hreturn] using h

theorem isBlank_eq (h : Darkens keyword n light dark) : isBlank light = isBlank dark := by
  have hbracket : isSpace '<' = false := by decide
  induction h with
  | nil => rfl
  | char c _ ih => exact congrArg (isSpace c && ·) ih
  | run => simp [isBlank, opensClassList, hbracket]

theorem indentLine (h : Darkens keyword n light dark) (spaces : Nat) :
    Darkens keyword n (indentLine spaces light) (indentLine spaces dark) := by
  simp only [Scaffold.indentLine, h.isBlank_eq]
  split
  · exact h
  · exact h.append_left _

section Lines

variable (hkeyword : ∀ c ∈ keyword, isClassChar c = true)
include hkeyword

theorem newline_not_mem_opensClassList {between value : List Char} (hbetween : InsideTag between)
    (hvalue : InsideValue value) : '\n' ∉ opensClassList keyword between value := by
  have hkey : '\n' ∉ keyword := fun hmem => absurd (hkeyword _ hmem) (by decide)
  have htag : '\n' ∉ between := fun hmem => hbetween.noSign _ hmem (by simp)
  have hval : '\n' ∉ value := fun hmem => hvalue _ hmem (by simp)
  simp [opensClassList, hkey, htag, hval]

/-- Line ends are at the same places, and the lines correspond. -/
theorem first_line (h : Darkens keyword n light dark) :
    ('\n' ∉ light ∧ '\n' ∉ dark) ∨
      ∃ k m line line' rest rest', k + m = n ∧ light = line ++ '\n' :: rest ∧
        dark = line' ++ '\n' :: rest' ∧ '\n' ∉ line ∧ '\n' ∉ line' ∧
        Darkens keyword k line line' ∧ Darkens keyword m rest rest' := by
  induction h with
  | nil => exact .inl (by simp)
  | @char n light dark c h ih =>
    by_cases hc : c = '\n'
    · exact .inr ⟨0, n, [], [], light, dark, n.zero_add, by rw [hc]; rfl, by rw [hc]; rfl,
        by simp, by simp, .nil, h⟩
    · rcases ih with ⟨hlight, hdark⟩ | ⟨k, m, a, b, rest, rest', hkm, rfl, rfl, ha, hb, hab, hrest⟩
      · exact .inl (by simp [hlight, hdark, Ne.symm hc])
      · exact .inr ⟨k, m, c :: a, c :: b, rest, rest', hkm, rfl, rfl, by simp [ha, Ne.symm hc],
          by simp [hb, Ne.symm hc], hab.char c, hrest⟩
  | @run n light dark between value run hbetween hvalue hrun h ih =>
    have hopens := newline_not_mem_opensClassList hkeyword hbetween hvalue
    have hadded : '\n' ∉ run := fun hmem => absurd (hrun.plain _ hmem) (by decide)
    -- so the first line end is behind the class list, if there is one
    rcases ih with ⟨hlight, hdark⟩ | ⟨k, m, a, b, rest, rest', hkm, rfl, rfl, ha, hb, hab, hrest⟩
    · exact .inl (by simp [hlight, hdark, hopens, hadded])
    · exact .inr ⟨k + 1, m, opensClassList keyword between value ++ '"' :: a,
        opensClassList keyword between value ++ run ++ '"' :: b, rest, rest', by omega, by simp,
        by simp, by simp [hopens, ha], by simp [hopens, hadded, hb],
        hab.run hbetween hvalue hrun, hrest⟩

theorem indent_lines (h : Darkens keyword n light dark) (spaces : Nat) :
    Darkens keyword n (['\n'].intercalate ((lines light).map (Scaffold.indentLine spaces)))
      (['\n'].intercalate ((lines dark).map (Scaffold.indentLine spaces))) := by
  -- line by line: what is behind the first line is shorter, though its proof is no part of `h`
  induction hlength : light.length using Nat.strongRecOn generalizing n light dark with
  | _ length ih =>
    rcases h.first_line hkeyword with ⟨hlight, hdark⟩ |
      ⟨k, m, line, line', rest, rest', rfl, rfl, rfl, hline, hline', hfirst, hrest⟩
    · by_cases hne : light = []
      · obtain rfl := h.eq_nil_iff.mp hne
        subst hne
        exact h
      · rw [lines_of_not_mem hlight hne, lines_of_not_mem hdark (h.eq_nil_iff.not.mp hne)]
        simpa using h.indentLine spaces
    · have hhead := hfirst.chompReturn.indentLine spaces
      rw [lines_append_newline hline, lines_append_newline hline', List.map_cons, List.map_cons]
      by_cases hmore : rest = []
      · obtain rfl := hrest.eq_nil_iff.mp hmore
        subst hmore
        simpa using hhead.append hrest
      · have hshort : rest.length < length := by
          rw [← hlength, List.length_append, List.length_cons]
          omega
        -- there are more lines, so a line end stands behind the first
        have hlines : (lines rest).map (Scaffold.indentLine spaces) ≠ [] := by
          rwa [ne_eq, List.map_eq_nil_iff, lines_eq_nil_iff]
        have hlines' : (lines rest').map (Scaffold.indentLine spaces) ≠ [] := by
          rwa [ne_eq, List.map_eq_nil_iff, lines_eq_nil_iff, ← hrest.eq_nil_iff]
        rw [List.intercalate_cons_of_ne_nil hlines, List.intercalate_cons_of_ne_nil hlines',
          List.append_assoc, List.append_assoc]
        exact hhead.append ((ih rest.length hshort hrest rfl).char '\n')

theorem indent {light dark : String} (h : Darkens keyword n light.toList dark.toList)
    (spaces : Nat) :
    Darkens keyword n (indent light spaces).toList (indent dark spaces).toList := by
  rw [toList_indent, toList_indent]
  exact h.indent_lines hkeyword spaces

end Lines

end Darkens

/-! ### Escapes -/

/-- An escape that leaves alone what tags are told by, and writes no such sign for another
character. -/
structure KeepsTags (f : Char → List Char) : Prop extends KeepsSpace f where
  kept : ∀ c, c ∈ ['"', '<', '>', '='] ∨ isClassChar c = true → f c = [c]
  fresh : ∀ c, ∀ d ∈ f c, d ∈ ['"', '<', '>'] → d = c

namespace KeepsTags

variable {f : Char → List Char} {cs : List Char}

theorem mem_flatMap_iff (hf : KeepsTags f) {c : Char} (hc : c ∈ ['"', '<', '>', '\n', '\r']) :
    c ∈ cs.flatMap f ↔ c ∈ cs := by
  -- an escape leaves white space alone, and writes these signs for themselves only
  have hlineEnds : isSpace '\n' = true ∧ isSpace '\r' = true := by decide
  have hsplit : c ∈ ['"', '<', '>'] ∨ isSpace c = true := by
    simp only [List.mem_cons, List.not_mem_nil, or_false] at hc ⊢
    rcases hc with rfl | rfl | rfl | rfl | rfl <;> simp [hlineEnds]
  rcases hsplit with hsign | hspace
  · rw [List.mem_flatMap]
    constructor
    · rintro ⟨d, hd, hmem⟩
      rwa [hf.fresh d c hmem hsign]
    · have hkept : c ∈ ['"', '<', '>', '='] := (List.subset_append_left _ ['=']) hsign
      exact fun hmem => ⟨c, hmem, by simp [hf.kept c (.inl hkept)]⟩
  · exact hf.toKeepsSpace.mem_flatMap_iff hspace

theorem insideValue (hf : KeepsTags f) (h : InsideValue cs) : InsideValue (cs.flatMap f) := by
  intro c hc hsign
  exact h c ((hf.mem_flatMap_iff hsign).mp hc) hsign

theorem count_quote (hf : KeepsTags f) : (cs.flatMap f).count '"' = cs.count '"' := by
  induction cs with
  | nil => rfl
  | cons c cs ih =>
    rw [List.flatMap_cons, List.count_append, ih, List.count_cons]
    by_cases hc : c = '"'
    · subst hc
      simp [hf.kept '"' (by simp), Nat.add_comm]
    · have hquote : '"' ∉ f c := fun hmem => hc (hf.fresh c _ hmem (by simp)).symm
      simp [List.count_eq_zero_of_not_mem hquote, hc]

theorem insideTag (hf : KeepsTags f) (h : InsideTag cs) : InsideTag (cs.flatMap f) := by
  refine ⟨fun c hc hsign => ?_, by rw [hf.count_quote]; exact h.closed⟩
  exact h.noSign c ((hf.mem_flatMap_iff (List.mem_cons_of_mem _ hsign)).mp hc) hsign

/-- Class names and the blanks around them stay. -/
theorem flatMap_eq_self (hf : KeepsTags f) (h : ∀ c ∈ cs, c = ' ' ∨ isClassChar c = true) :
    cs.flatMap f = cs := by
  have hchars : ∀ c ∈ cs, f c = [c] := by
    intro c hc
    rcases h c hc with rfl | hclass
    · exact hf.space ' ' rfl
    · exact hf.kept c (.inr hclass)
  rw [List.flatMap_congr hchars, List.flatMap_singleton']

end KeepsTags

theorem Darkens.flatMap {keyword light dark : List Char} {n : Nat}
    (hkeyword : ∀ c ∈ keyword, isClassChar c = true) {f : Char → List Char} (hf : KeepsTags f)
    (h : Darkens keyword n light dark) : Darkens keyword n (light.flatMap f) (dark.flatMap f) := by
  have hopens : ∀ between value, (opensClassList keyword between value).flatMap f =
      opensClassList keyword (between.flatMap f) (value.flatMap f) := by
    intro between value
    have hkey := hf.flatMap_eq_self fun c hc => .inr (hkeyword c hc)
    simp [opensClassList, hkey, hf.kept, hf.space ' ' rfl]
  induction h with
  | nil => exact .nil
  | char c _ ih => simpa using (Darkens.refl (f c)).append ih
  | @run n light dark between value run hbetween hvalue hrun h ih =>
    have hadded : run.flatMap f = run := hf.flatMap_eq_self hrun.eq_blank_or_isClassChar
    have hquote : f '"' = ['"'] := hf.kept '"' (by simp)
    have hwhole := ih.run (hf.insideTag hbetween) (hf.insideValue hvalue) hrun
    simpa [hopens, hadded, hquote] using hwhole

/-! ### What is added -/

/-- A fragment that is added, and the text behind it up to the next one. -/
structure Addition where
  fragment : List Char
  behind : List Char

/-- A text with what is added to it behind `front`. -/
def darkText (front : List Char) (additions : List Addition) : List Char :=
  front ++ additions.flatMap fun a => a.fragment ++ a.behind

/-- The text without what is added to it. -/
def lightText (front : List Char) (additions : List Addition) : List Char :=
  front ++ additions.flatMap (·.behind)

theorem darkText_cons (front : List Char) (a : Addition) (additions : List Addition) :
    darkText front (a :: additions) = front ++ (a.fragment ++ darkText a.behind additions) := by
  simp [darkText]

theorem lightText_cons (front : List Char) (a : Addition) (additions : List Addition) :
    lightText front (a :: additions) = front ++ lightText a.behind additions := by
  simp [lightText]

/-- The place between two texts is the end of a class list in a tag. -/
def EndsClassList (keyword before after : List Char) : Prop :=
  ∃ outer between value behind, before = outer ++ opensClassList keyword between value ∧
    InsideTag between ∧ InsideValue value ∧ after = '"' :: behind

theorem EndsClassList.append_left {keyword before after : List Char} (front : List Char)
    (h : EndsClassList keyword before after) : EndsClassList keyword (front ++ before) after := by
  obtain ⟨outer, between, value, behind, rfl, hbetween, hvalue, hafter⟩ := h
  exact ⟨front ++ outer, between, value, behind, by simp, hbetween, hvalue, hafter⟩

/-- The runs one by one, each with the texts before and behind it. -/
theorem Darkens.exists_additions {keyword light dark : List Char} {n : Nat}
    (h : Darkens keyword n light dark) :
    ∃ front additions, additions.length = n ∧ light = lightText front additions ∧
      dark = darkText front additions ∧
      ∀ before a after, additions = before ++ a :: after → IsDarkRun a.fragment ∧
        EndsClassList keyword (darkText front before) (darkText a.behind after) := by
  induction h with
  | nil => exact ⟨[], [], rfl, rfl, rfl, by simp⟩
  | char c _ ih =>
    obtain ⟨front, additions, hlength, rfl, rfl, hplaces⟩ := ih
    refine ⟨c :: front, additions, hlength, rfl, rfl, fun before a after heq => ?_⟩
    exact (hplaces before a after heq).imp_right (·.append_left [c])
  | @run n light dark between value run hbetween hvalue hrun _ ih =>
    obtain ⟨front, additions, hlength, rfl, rfl, hplaces⟩ := ih
    refine ⟨opensClassList keyword between value, ⟨run, '"' :: front⟩ :: additions,
      congrArg (· + 1) hlength, ?_, ?_, ?_⟩
    · rw [lightText_cons]
      rfl
    · rw [darkText_cons, List.append_assoc]
      rfl
    · intro before a after heq
      cases before with
      | nil =>
        obtain ⟨rfl, rfl⟩ := List.cons.inj heq
        exact ⟨hrun, [], between, value, darkText front additions, by simp [darkText], hbetween,
          hvalue, rfl⟩
      | cons first before =>
        obtain ⟨rfl, hmore⟩ := List.cons.inj heq
        have hplace := hplaces before a after hmore
        rw [darkText_cons]
        exact hplace.imp_right fun hends =>
          ((hends.append_left ['"']).append_left run).append_left _

end Scaffold
