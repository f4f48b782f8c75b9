import Mathlib.Data.List.DropRight
import Scaffold.Proofs.Assembly.TemplateLiteral
import Scaffold.Proofs.PageName.Stability

/-!
# The selector of a component

A component file names its selector in a string literal, which has the segment of the page's name in
it, as it is. `readString` reads such a literal as the language of the file does. It ends at the
quote of the skeleton just when every quote of the name is escaped already
(`angular_selector_closed_iff`): the segment keeps the quotes and backslashes of the name, and never
has the end of a line.

Which quotes are escaped is told by running `quoteStep` over a text. All that it asks of the other
characters is whether some stand between two of those, and a segment does not change that.
-/

namespace Scaffold

open Text

variable {escaped : Bool} {c : Char} {cs : List Char}

/-! ### String literals -/

/-- The characters that end a line. -/
def EndsLine (c : Char) : Prop := c ∈ ['\n', '\r', '\u2028', '\u2029']

instance (c : Char) : Decidable (EndsLine c) := inferInstanceAs (Decidable (_ ∈ _))

theorem EndsLine.isSpace (h : EndsLine c) : isSpace c = true := by
  simp only [EndsLine, List.mem_cons, List.not_mem_nil, or_false] at h
  rcases h with rfl | rfl | rfl | rfl <;> decide

/-- Reads a string literal behind its opening quote: the text up to the quote that closes it, as it
is written, and what is left behind. A backslash takes the next character, which `escaped` tells;
this is about where the literal ends, so what the two stand for is not asked. Nothing is read when
the line or the text ends before the literal does. -/
def readString (escaped : Bool) : List Char → Option (List Char × List Char)
  | [] => none
  | c :: rest =>
    if EndsLine c then none
    else if !escaped && c == '\x27' then some ([], rest)
    else (readString (!escaped && c == '\\') rest).map fun (text, after) => (c :: text, after)

/-- The number of backslashes at the end of a text. -/
def slashesAtEnd (cs : List Char) : Nat := (cs.rtakeWhile (· == '\\')).length

/-- Every quote has an odd number of backslashes right in front of it. -/
def EscapesQuotes (cs : List Char) : Prop :=
  ∀ front, front ++ ['\x27'] <+: cs → slashesAtEnd front % 2 = 1

/-! ### One character after the other -/

/-- Whether the next character is escaped. There is none after a quote that is not. -/
def quoteStep (escaped : Bool) (c : Char) : Option Bool :=
  if !escaped && c == '\x27' then none else some (!escaped && c == '\\')

theorem quoteStep_of_plain (hc : c ≠ '\x27' ∧ c ≠ '\\') (escaped : Bool) :
    quoteStep escaped c = some false := by
  simp [quoteStep, hc]

theorem foldlM_quoteStep_cons (hc : c ≠ '\x27' ∧ c ≠ '\\') (rest : List Char) (escaped : Bool) :
    (c :: rest).foldlM quoteStep escaped = rest.foldlM quoteStep false := by
  rw [List.foldlM_cons, quoteStep_of_plain hc]
  rfl

/-- Some characters that are neither quotes nor backslashes are as good as one. -/
theorem foldlM_quoteStep_of_plain (hne : cs ≠ []) (h : ∀ c ∈ cs, c ≠ '\x27' ∧ c ≠ '\\')
    (escaped : Bool) : cs.foldlM quoteStep escaped = some false := by
  induction cs generalizing escaped with
  | nil => exact absurd rfl hne
  | cons c rest ih =>
    rw [List.forall_mem_cons] at h
    rw [foldlM_quoteStep_cons h.1]
    by_cases hrest : rest = []
    · rw [hrest]
      rfl
    · exact ih hrest h.2 false

theorem slashesAtEnd_concat (cs : List Char) (c : Char) :
    slashesAtEnd (cs ++ [c]) = if c = '\\' then slashesAtEnd cs + 1 else 0 := by
  rw [slashesAtEnd, List.rtakeWhile_concat]
  simp only [beq_iff_eq]
  split
  · exact List.length_append
  · rfl

theorem escapesQuotes_concat (cs : List Char) (c : Char) :
    EscapesQuotes (cs ++ [c]) ↔ EscapesQuotes cs ∧ (c = '\x27' → slashesAtEnd cs % 2 = 1) := by
  constructor
  · intro h
    refine ⟨fun front hfront => h front (hfront.trans (List.prefix_append cs [c])), ?_⟩
    rintro rfl
    exact h cs (List.prefix_refl _)
  · rintro ⟨hfront, hlast⟩ front hprefix
    rcases List.prefix_concat_iff.mp hprefix with heq | hinside
    · obtain ⟨rfl, hc⟩ := List.append_inj' heq rfl
      exact hlast (List.singleton_inj.mp hc.symm)
    · exact hfront front hinside

/-- A text is gone through when its quotes are escaped, and then the last of the backslashes at its
end takes what follows if their number is odd. -/
theorem foldlM_quoteStep_eq_some_iff (cs : List Char) (escaped : Bool) :
    cs.foldlM quoteStep false = some escaped ↔
      EscapesQuotes cs ∧ (escaped = true ↔ slashesAtEnd cs % 2 = 1) := by
  induction cs using List.reverseRecOn generalizing escaped with
  | nil =>
    have hempty : EscapesQuotes [] := by simp [EscapesQuotes]
    have hnone : slashesAtEnd [] = 0 := rfl
    simp [hempty, hnone, eq_comm]
  | append_singleton cs c ih =>
    rw [List.foldlM_append, escapesQuotes_concat, slashesAtEnd_concat]
    cases hcs : cs.foldlM quoteStep false with
    | none =>
      have hbare : ¬EscapesQuotes cs := by
        intro h
        have hstate := (ih (decide (slashesAtEnd cs % 2 = 1))).mpr ⟨h, decide_eq_true_iff⟩
        rw [hcs] at hstate
        cases hstate
      simp [hbare]
    | some before =>
      obtain ⟨hescapes, hodd⟩ := (ih before).mp hcs
      have hstep : [c].foldlM quoteStep before = quoteStep before c := by simp
      rw [Option.bind_eq_bind, Option.bind_some, hstep, ← hodd]
      by_cases hquote : c = '\x27'
      · subst hquote
        cases before <;> simp [quoteStep, hescapes, eq_comm]
      by_cases hslash : c = '\\'
      · -- one more backslash changes whether their number is odd
        subst hslash
        have hnext : (slashesAtEnd cs + 1) % 2 = 1 ↔ (!before) = true := by
          rw [Bool.not_eq_true', ← Bool.not_eq_true, hodd]
          omega
        have hturn : quoteStep before '\\' = some (!before) := by cases before <;> rfl
        rw [hturn, if_pos rfl, hnext, Option.some_inj, eq_comm, Bool.eq_iff_iff]
        simp [hescapes]
      · rw [quoteStep_of_plain ⟨hquote, hslash⟩]
        simp [hescapes, hquote, hslash, eq_comm]

theorem isSome_foldlM_quoteStep (cs : List Char) :
    (cs.foldlM quoteStep false).isSome ↔ EscapesQuotes cs := by
  rw [Option.isSome_iff_exists]
  constructor
  · rintro ⟨escaped, h⟩
    exact ((foldlM_quoteStep_eq_some_iff cs escaped).mp h).1
  · intro h
    exact ⟨decide (slashesAtEnd cs % 2 = 1),
      (foldlM_quoteStep_eq_some_iff cs _).mpr ⟨h, decide_eq_true_iff⟩⟩

/-! ### Reading -/

theorem readString_cons (hline : ¬EndsLine c) (rest : List Char) :
    readString escaped (c :: rest) =
      match quoteStep escaped c with
      | none => some ([], rest)
      | some next => (readString next rest).map fun (text, after) => (c :: text, after) := by
  rw [readString, if_neg hline, quoteStep]
  split <;> rfl

/-- What is gone through is read, and the literal ends at the quote behind it. -/
theorem readString_append_quote (hline : ∀ c ∈ cs, ¬EndsLine c)
    (h : cs.foldlM quoteStep escaped = some false) (after : List Char) :
    readString escaped (cs ++ '\x27' :: after) = some (cs, after) := by
  induction cs generalizing escaped with
  | nil =>
    obtain rfl : escaped = false := by simpa using h
    rfl
  | cons c rest ih =>
    rw [List.forall_mem_cons] at hline
    rw [List.foldlM_cons] at h
    rw [List.cons_append, readString_cons hline.1]
    cases hstep : quoteStep escaped c with
    | none => simp [hstep] at h
    | some next =>
      rw [hstep] at h
      simp [ih hline.2 h]

/-- At a quote that is not escaped the literal ends within the text. -/
theorem exists_readString_of_none (hline : ∀ c ∈ cs, ¬EndsLine c)
    (h : cs.foldlM quoteStep escaped = none) (after : List Char) :
    ∃ text rest, readString escaped (cs ++ after) = some (text, rest) ∧
      text.length < cs.length := by
  induction cs generalizing escaped with
  | nil => simp at h
  | cons c rest ih =>
    rw [List.forall_mem_cons] at hline
    rw [List.foldlM_cons] at h
    rw [List.cons_append, readString_cons hline.1]
    cases hstep : quoteStep escaped c with
    | none => exact ⟨[], rest ++ after, rfl, Nat.succ_pos _⟩
    | some next =>
      rw [hstep] at h
      obtain ⟨text, left, hread, hlength⟩ := ih hline.2 h
      refine ⟨c :: text, left, ?_, Nat.succ_lt_succ hlength⟩
      simp [hread]

/-! ### Quotes in a segment -/

namespace PageName

theorem foldlM_quoteStep_splitHumps (cs : List Char) (escaped : Bool) :
    (splitHumps cs).foldlM quoteStep escaped = cs.foldlM quoteStep escaped := by
  fun_induction splitHumps cs generalizing escaped with
  | case1 a b rest hhump ih =>
    -- in front of the hyphen stands a letter
    have hletter : a.isLower = true := Bool.and_elim_left hhump
    have ha : a ≠ '\x27' ∧ a ≠ '\\' := by
      constructor <;> rintro rfl <;> exact absurd hletter (by decide)
    rw [foldlM_quoteStep_cons ha, foldlM_quoteStep_cons (by decide), ih, foldlM_quoteStep_cons ha]
  | case2 a b rest hhump ih => rw [List.foldlM_cons, List.foldlM_cons, funext ih]
  | case3 cs hcs => rfl

/-- Past the first character of a run, which may be escaped, the hyphen and the run are the same. -/
theorem foldlM_quoteStep_collapseRuns {inRun : Bool} (hrun : inRun = true → escaped = false)
    (cs : List Char) :
    (collapseRuns inRun cs).foldlM quoteStep escaped = cs.foldlM quoteStep escaped := by
  induction cs generalizing inRun escaped with
  | nil => rfl
  | cons c rest ih =>
    rw [collapseRuns]
    split
    · next hblank =>
      have hc : c ≠ '\x27' ∧ c ≠ '\\' := by
        constructor <;> rintro rfl <;> exact absurd hblank (by decide)
      rw [foldlM_quoteStep_cons hc]
      cases inRun with
      | true =>
        rw [if_pos rfl, hrun rfl]
        exact ih fun _ => rfl
      | false =>
        rw [if_neg Bool.false_ne_true, foldlM_quoteStep_cons (by decide)]
        exact ih fun _ => rfl
    · rw [List.foldlM_cons, List.foldlM_cons]
      exact congrArg _ (funext fun next => ih fun h => absurd h Bool.false_ne_true)

/-- Quotes and backslashes are neither changed nor written. -/
theorem foldlM_quoteStep_lower (c : Char) (escaped : Bool) :
    (lower c).foldlM quoteStep escaped = quoteStep escaped c := by
  have hquote : '\x27' ∈ lower c ↔ '\x27' = c := mem_lower_iff (by decide)
  have hslash : '\\' ∈ lower c ↔ '\\' = c := mem_lower_iff (by decide)
  obtain ⟨hne, hself | ⟨hcased, -⟩⟩ := lower_spec c
  · rw [hself]
    simp
  · have hc : c ≠ '\x27' ∧ c ≠ '\\' := by
      constructor <;> rintro rfl <;> exact absurd hcased (by decide)
    rw [quoteStep_of_plain hc]
    apply foldlM_quoteStep_of_plain hne
    intro d hd
    constructor
    · rintro rfl
      exact hc.1 (hquote.mp hd).symm
    · rintro rfl
      exact hc.2 (hslash.mp hd).symm

theorem foldlM_quoteStep_lowercaseAfter (before cs : List Char) (escaped : Bool) :
    (lowercaseAfter before cs).foldlM quoteStep escaped = cs.foldlM quoteStep escaped := by
  induction cs generalizing before escaped with
  | nil => rfl
  | cons c rest ih =>
    obtain ⟨form, heq, hform⟩ := exists_form before c rest
    have hstep : form.foldlM quoteStep escaped = quoteStep escaped c := by
      rcases hform with rfl | ⟨rfl, rfl⟩
      · exact foldlM_quoteStep_lower c escaped
      · cases escaped <;> rfl
    rw [heq, List.foldlM_append, List.foldlM_cons, hstep]
    exact congrArg _ (funext fun next => ih (c :: before) next)

theorem foldlM_quoteStep_segment (name : String) (escaped : Bool) :
    (segment name).toList.foldlM quoteStep escaped = name.toList.foldlM quoteStep escaped := by
  rw [segment, String.toList_ofList, lowercase, foldlM_quoteStep_lowercaseAfter,
    foldlM_quoteStep_collapseRuns (fun h => absurd h Bool.false_ne_true),
    foldlM_quoteStep_splitHumps]

theorem not_endsLine_of_mem_segment {name : String} (h : c ∈ (segment name).toList) :
    ¬EndsLine c := by
  intro hline
  exact absurd hline.isSpace (by simp [not_isSpace_of_mem_segment h])

end PageName

/-! ### The file -/

/-- The text of a component file in front of its selector. -/
def selectorFront : List Char :=
  ("import \x7b Component \x7d from '@angular/core';\n\n@Component(\x7b\n  selector: ").toList

/-- The inside of the literal that names the selector. -/
def selectorInside (name : String) : List Char :=
  ("app-" ++ PageName.segment name ++ "-page").toList

/-- What stands between the selector and the template of a component. -/
def betweenLiterals : List Char := ",\n  standalone: true,\n  template: ".toList

/-- The text of a component file behind its selector. -/
def selectorBack (name : String) (body : Body) : List Char :=
  betweenLiterals ++ '\x60' :: literalInside body ++ '\x60' :: literalBack name

theorem literalFront_eq (name : String) :
    literalFront name = selectorFront ++ '\x27' :: selectorInside name ++
      '\x27' :: betweenLiterals := by
  have hfront : ("import \x7b Component \x7d from '@angular/core';\n\n@Component(\x7b\n" ++
      "  selector: 'app-").toList = selectorFront ++ '\x27' :: "app-".toList := by decide
  have hback : "-page',\n  standalone: true,\n  template: ".toList =
      "-page".toList ++ '\x27' :: betweenLiterals := by decide
  have hwhole : literalFront name =
      ("import \x7b Component \x7d from '@angular/core';\n\n@Component(\x7b\n" ++
        "  selector: 'app-").toList ++ (PageName.segment name).toList ++
          "-page',\n  standalone: true,\n  template: ".toList := by
    rw [literalFront, String.toList_append, String.toList_append]
    rfl
  rw [hwhole, hfront, hback, selectorInside, String.toList_append, String.toList_append]
  simp only [List.append_assoc, List.cons_append]

theorem not_endsLine_of_mem_selectorInside {name : String} (h : c ∈ selectorInside name) :
    ¬EndsLine c := by
  have hfront : ∀ d ∈ "app-".toList, ¬EndsLine d := by simp [EndsLine]
  have hback : ∀ d ∈ "-page".toList, ¬EndsLine d := by simp [EndsLine]
  rw [selectorInside, String.toList_append, String.toList_append, List.mem_append,
    List.mem_append] at h
  rcases h with (h | h) | h
  · exact hfront c h
  · exact PageName.not_endsLine_of_mem_segment h
  · exact hback c h

/-- What the skeleton puts behind the segment leaves its quote unescaped. -/
theorem foldlM_quoteStep_selectorInside (name : String) :
    (selectorInside name).foldlM quoteStep false =
      (name.toList.foldlM quoteStep false).map fun _ => false := by
  have hback : ∀ escaped, "-page".toList.foldlM quoteStep escaped = some false := by decide
  have hfront : "app-".toList.foldlM quoteStep false = some false := by decide
  rw [selectorInside, String.toList_append, String.toList_append, List.foldlM_append,
    List.foldlM_append, hfront, Option.bind_eq_bind, Option.bind_some,
    PageName.foldlM_quoteStep_segment, funext hback]
  cases name.toList.foldlM quoteStep false <;> rfl

theorem assemble_angular_selector (name : String) (body : Body) (setting : Setting) :
    Target.angular.assemble ⟨name, body⟩ setting =
      .ok ⟨filePath name "-page" "component.ts",
        String.ofList (selectorFront ++ '\x27' :: selectorInside name ++
          '\x27' :: selectorBack name body)⟩ := by
  have hcontent : literalFront name ++ '\x60' :: literalInside body ++ '\x60' :: literalBack name =
      selectorFront ++ '\x27' :: selectorInside name ++ '\x27' :: selectorBack name body := by
    rw [literalFront_eq, selectorBack]
    simp only [List.append_assoc, List.cons_append]
  rw [assemble_angular, hcontent]

/-- The literal that names the selector of a component ends on its line. It ends at the quote of the
skeleton just when every quote of the page's name is escaped already, for in its segment stand the
same quotes and backslashes; nothing else that could end the literal gets there. -/
theorem angular_selector_closed_iff (name : String) (body : Body) (setting : Setting) :
    Target.angular.assemble ⟨name, body⟩ setting =
      .ok ⟨filePath name "-page" "component.ts",
        String.ofList (selectorFront ++ '\x27' :: selectorInside name ++
          '\x27' :: selectorBack name body)⟩ ∧
    (∀ c ∈ (PageName.segment name).toList, ¬EndsLine c) ∧
    ('\x27' ∈ (PageName.segment name).toList ↔ '\x27' ∈ name.toList) ∧
    ('\\' ∈ (PageName.segment name).toList ↔ '\\' ∈ name.toList) ∧
    ∃ text rest,
      readString false (selectorInside name ++ '\x27' :: selectorBack name body) =
        some (text, rest) ∧
      ((text, rest) = (selectorInside name, selectorBack name body) ↔
        EscapesQuotes name.toList) := by
  refine ⟨assemble_angular_selector name body setting,
    fun c => PageName.not_endsLine_of_mem_segment,
    PageName.mem_segment_iff (by decide) (by decide) name,
    PageName.mem_segment_iff (by decide) (by decide) name, ?_⟩
  have hline : ∀ c ∈ selectorInside name, ¬EndsLine c :=
    fun c => not_endsLine_of_mem_selectorInside
  have hstate := foldlM_quoteStep_selectorInside name
  rw [← isSome_foldlM_quoteStep]
  cases hname : name.toList.foldlM quoteStep false with
  | some escaped =>
    rw [hname, Option.map_some] at hstate
    exact ⟨_, _, readString_append_quote hline hstate _, by simp⟩
  | none =>
    rw [hname, Option.map_none] at hstate
    obtain ⟨text, rest, hread, hlength⟩ :=
      exists_readString_of_none hline hstate ('\x27' :: selectorBack name body)
    refine ⟨text, rest, hread, ?_⟩
    -- what is read is shorter than what the skeleton means
    have hne : text ≠ selectorInside name := fun heq => absurd hlength (by simp [heq])
    simp [hne]

/-- The quote of a name that has one ends the literal. -/
theorem not_forall_selector_closed :
    ¬∀ name body,
      readString false (selectorInside name ++ '\x27' :: selectorBack name body) =
        some (selectorInside name, selectorBack name body) := by
  intro h
  have hread := h "it's" (.markup "<p></p>")
  have hinside : selectorInside "it's" = "app-it".toList ++ '\x27' :: "s-page".toList := by decide
  have hline : ∀ c ∈ "app-it".toList, ¬EndsLine c := by simp [EndsLine]
  rw [hinside, List.append_assoc, List.cons_append, readString_append_quote hline (by decide),
    Option.some_inj, Prod.mk.injEq] at hread
  exact absurd hread.1 (by decide)

end Scaffold
