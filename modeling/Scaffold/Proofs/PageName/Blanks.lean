import Scaffold.Proofs.PageName.Compact
import Scaffold.Proofs.PageName.Stability
import Scaffold.Proofs.Text.Space

/-!
# Blanks around a name

White space at the ends of a name leaves no trace in its identifier, for separators go. In its
segment every run of white space and underscores has a hyphen, so a blank in front of the name or
behind it leaves one, unless it lengthens a run that the name has there anyway.
-/

namespace Scaffold.PageName

open Text

variable {c : Char} {cs front back : List Char}

/-- The name without the white space around it. -/
def trimmed (name : String) : String := String.ofList (trim name.toList)

/-! ### Identifiers -/

theorem isSeparator_of_isSpace (h : isSpace c = true) : isSeparator c = true := by
  simp [isSeparator, h]

theorem compactFrom_true_append (hfront : ∀ c ∈ front, isSeparator c = true) (cs : List Char) :
    compactFrom true (front ++ cs) = compactFrom true cs := by
  induction front with
  | nil => rfl
  | cons c front ih =>
    rw [List.forall_mem_cons] at hfront
    rw [List.cons_append, compactFrom, if_pos hfront.1, ih hfront.2]

theorem compactFrom_append (hback : ∀ c ∈ back, isSeparator c = true) (begins : Bool)
    (cs : List Char) : compactFrom begins (cs ++ back) = compactFrom begins cs := by
  induction cs generalizing begins with
  | nil =>
    cases back with
    | nil => rfl
    | cons c back =>
      rw [List.forall_mem_cons] at hback
      have hnil := compactFrom_true_append hback.2 []
      rw [List.append_nil] at hnil
      rw [List.nil_append, compactFrom.eq_2, if_pos hback.1, hnil]
      rfl
  | cons c rest ih => rw [List.cons_append, compactFrom, compactFrom, ih, ih]

theorem identifier_trimmed (name : String) : identifier (trimmed name) = identifier name := by
  obtain ⟨front, back, hname, hfront, hback, -⟩ := exists_blanks name.toList
  have hcompact : compactFrom true name.toList = compactFrom true (trimmed name).toList := by
    rw [trimmed, String.toList_ofList, hname,
      compactFrom_true_append fun c hc => isSeparator_of_isSpace (hfront c hc),
      compactFrom_append fun c hc => isSeparator_of_isSpace (hback c hc), ← hname]
  have hkept : kept true name.toList = kept true (trimmed name).toList := by
    rw [kept, kept, hcompact]
  rw [← String.toList_inj, toList_identifier, toList_identifier, hkept]

/-! ### Humps -/

theorem not_isAlpha_of_isSpace (h : isSpace c = true) : ¬c.isAlpha = true := by
  intro hletter
  rw [not_isSpace_of_isAlpha hletter] at h
  cases h

theorem not_isLower_of_isSpace (h : isSpace c = true) : c.isLower = false :=
  Bool.eq_false_iff.mpr fun hlower => not_isAlpha_of_isSpace h (isAlpha_iff.mpr (.inr hlower))

theorem not_isUpper_of_isSpace (h : isSpace c = true) : c.isUpper = false :=
  Bool.eq_false_iff.mpr fun hupper => not_isAlpha_of_isSpace h (isAlpha_iff.mpr (.inl hupper))

theorem splitHumps_cons_of_not_isLower (hc : c.isLower = false) (cs : List Char) :
    splitHumps (c :: cs) = c :: splitHumps cs := by
  cases cs with
  | nil => rfl
  | cons d rest => rw [splitHumps_cons_cons, hc, Bool.false_and, if_neg Bool.false_ne_true]

theorem splitHumps_blanks_append (hfront : ∀ c ∈ front, isSpace c = true) (cs : List Char) :
    splitHumps (front ++ cs) = front ++ splitHumps cs := by
  induction front with
  | nil => rfl
  | cons c front ih =>
    rw [List.forall_mem_cons] at hfront
    rw [List.cons_append, splitHumps_cons_of_not_isLower (not_isLower_of_isSpace hfront.1),
      ih hfront.2, List.cons_append]

theorem splitHumps_append_blanks (hback : ∀ c ∈ back, isSpace c = true) (cs : List Char) :
    splitHumps (cs ++ back) = splitHumps cs ++ back := by
  have hself : splitHumps back = back :=
    splitHumps_eq_self fun c hc => not_isUpper_of_isSpace (hback c hc)
  fun_induction splitHumps cs with
  | case1 a b rest hhump ih =>
    rw [List.cons_append, List.cons_append, splitHumps_cons_cons, if_pos hhump,
      ← List.cons_append, ih]
    rfl
  | case2 a b rest hhump ih =>
    rw [List.cons_append, List.cons_append, splitHumps_cons_cons, if_neg hhump,
      ← List.cons_append, ih]
    rfl
  | case3 cs hcs =>
    -- at most one character is left, and no capital behind it
    rcases cs with - | ⟨a, - | ⟨b, rest⟩⟩
    · exact hself
    · cases back with
      | nil => rfl
      | cons d back =>
        rw [List.forall_mem_cons] at hback
        rw [List.singleton_append, splitHumps_cons_cons, not_isUpper_of_isSpace hback.1,
          Bool.and_false, if_neg Bool.false_ne_true, hself]
    · exact absurd rfl (hcs a b rest)

theorem head?_splitHumps (cs : List Char) : (splitHumps cs).head? = cs.head? := by
  cases cs with
  | nil => rfl
  | cons b back =>
    obtain ⟨after, hafter⟩ := exists_splitHumps_cons b back
    rw [hafter, List.head?_cons, List.head?_cons]

theorem getLast?_splitHumps (cs : List Char) : (splitHumps cs).getLast? = cs.getLast? := by
  cases cs using List.reverseRecOn with
  | nil => rfl
  | append_singleton front a =>
    obtain ⟨before, hbefore⟩ := exists_splitHumps_concat front a
    rw [hbefore, List.getLast?_concat, List.getLast?_concat]

/-! ### Runs -/

theorem isBlankOrUnderscore_of_isSpace (h : isSpace c = true) : isBlankOrUnderscore c = true := by
  simp [isBlankOrUnderscore, h]

/-- Whether a run is going on behind a text that began in one or not. -/
def endsInRun (inRun : Bool) (cs : List Char) : Bool := cs.getLast?.elim inRun isBlankOrUnderscore

theorem endsInRun_cons (inRun : Bool) (c : Char) (cs : List Char) :
    endsInRun inRun (c :: cs) = endsInRun (isBlankOrUnderscore c) cs := by
  cases cs with
  | nil => rfl
  | cons d rest =>
    rw [endsInRun, endsInRun, List.getLast?_cons_cons]
    rfl

theorem collapseRuns_append (inRun : Bool) (cs rest : List Char) :
    collapseRuns inRun (cs ++ rest) =
      collapseRuns inRun cs ++ collapseRuns (endsInRun inRun cs) rest := by
  induction cs generalizing inRun with
  | nil => rfl
  | cons c cs ih =>
    rw [List.cons_append, collapseRuns, collapseRuns, endsInRun_cons, ih, ih]
    cases isBlankOrUnderscore c <;> cases inRun <;> rfl

theorem collapseRuns_true_append (hfront : ∀ c ∈ front, isSpace c = true) (cs : List Char) :
    collapseRuns true (front ++ cs) = collapseRuns true cs := by
  induction front with
  | nil => rfl
  | cons c front ih =>
    rw [List.forall_mem_cons] at hfront
    rw [List.cons_append, collapseRuns, if_pos (isBlankOrUnderscore_of_isSpace hfront.1),
      if_pos rfl, ih hfront.2]

theorem collapseRuns_cons_blanks (hfront : ∀ d ∈ c :: front, isSpace d = true) (cs : List Char) :
    collapseRuns false (c :: front ++ cs) = '-' :: collapseRuns true cs := by
  rw [List.forall_mem_cons] at hfront
  rw [List.cons_append, collapseRuns, if_pos (isBlankOrUnderscore_of_isSpace hfront.1),
    if_neg Bool.false_ne_true, collapseRuns_true_append hfront.2]

/-- The hyphen of a run, if it is one. -/
def hyphenIf (isRun : Bool) : List Char := if isRun then ['-'] else []

theorem collapseRuns_blanks (inRun : Bool) (hback : ∀ c ∈ back, isSpace c = true) :
    collapseRuns inRun back = hyphenIf (!back.isEmpty && !inRun) := by
  cases back with
  | nil => rfl
  | cons c back =>
    rw [← List.append_nil (c :: back)]
    cases inRun with
    | true => exact collapseRuns_true_append hback []
    | false => exact collapseRuns_cons_blanks hback []

/-- A run that has its hyphen goes on into a text, or the text has its hyphens for itself. -/
theorem hyphen_collapseRuns (cs : List Char) :
    '-' :: collapseRuns true cs =
      hyphenIf (!cs.head?.any isBlankOrUnderscore) ++ collapseRuns false cs := by
  cases cs with
  | nil => rfl
  | cons c rest =>
    rw [collapseRuns, collapseRuns, List.head?_cons, Option.any_some]
    cases isBlankOrUnderscore c <;> rfl

/-- Whether blanks have a hyphen of their own, next to a character of the name: they have none with
a character whose run they lengthen. -/
def haveHyphen (blanks : List Char) (next : Option Char) : Bool :=
  !blanks.isEmpty && !next.any isBlankOrUnderscore

theorem collapseRuns_around (hfront : ∀ c ∈ front, isSpace c = true)
    (hback : ∀ c ∈ back, isSpace c = true) (hempty : cs = [] → back = []) :
    collapseRuns false (front ++ (cs ++ back)) =
      hyphenIf (haveHyphen front cs.head?) ++ collapseRuns false cs ++
        hyphenIf (haveHyphen back cs.getLast?) := by
  -- with a name that is not blank, the run at its start does not reach the blanks behind it
  have hbehind : ∀ inRun, collapseRuns inRun (cs ++ back) =
      collapseRuns inRun cs ++ hyphenIf (haveHyphen back cs.getLast?) := by
    intro inRun
    rw [collapseRuns_append, collapseRuns_blanks _ hback]
    cases hlast : cs.getLast? with
    | none =>
      rw [hempty (List.getLast?_eq_none_iff.mp hlast)]
      rfl
    | some c =>
      rw [endsInRun, hlast]
      rfl
  cases front with
  | nil => exact hbehind false
  | cons c front =>
    rw [collapseRuns_cons_blanks hfront, hbehind true, ← List.cons_append, hyphen_collapseRuns]
    rfl

theorem toList_segment (name : String) :
    (segment name).toList = lowercase (collapseRuns false (splitHumps name.toList)) :=
  String.toList_ofList

theorem lowercase_around (before after : Bool) (cs : List Char) :
    lowercase (hyphenIf before ++ cs ++ hyphenIf after) =
      hyphenIf before ++ lowercase cs ++ hyphenIf after := by
  have hafter : ∀ cs, lowercase (cs ++ hyphenIf after) = lowercase cs ++ hyphenIf after := by
    intro cs
    cases after with
    | false => rw [hyphenIf, if_neg Bool.false_ne_true, List.append_nil, List.append_nil]
    | true => exact lowercase_append_hyphen cs []
  rw [hafter]
  cases before with
  | false => rfl
  | true => exact congrArg (· ++ hyphenIf after) (lowercase_append_hyphen [] cs)

/-- The segment of a name is that of the trimmed name between the hyphens of the blanks around. -/
theorem exists_segment_around (name : String) :
    ∃ front back : List Char, name.toList = front ++ (trim name.toList ++ back) ∧
      (∀ c ∈ front, isSpace c = true) ∧ (∀ c ∈ back, isSpace c = true) ∧
      (trim name.toList = [] → back = []) ∧
      (segment name).toList =
        hyphenIf (haveHyphen front (trim name.toList).head?) ++ (segment (trimmed name)).toList ++
          hyphenIf (haveHyphen back (trim name.toList).getLast?) := by
  obtain ⟨front, back, hname, hfront, hback, hempty⟩ := exists_blanks name.toList
  refine ⟨front, back, hname, hfront, hback, hempty, ?_⟩
  have hempty' : splitHumps (trim name.toList) = [] → back = [] := fun h =>
    hempty (splitHumps_eq_nil_iff.mp h)
  have haround := collapseRuns_around hfront hback hempty'
  rw [head?_splitHumps, getLast?_splitHumps] at haround
  rw [toList_segment, toList_segment, trimmed, String.toList_ofList, ← lowercase_around, ← haround,
    ← splitHumps_append_blanks hback, ← splitHumps_blanks_append hfront, ← hname]

/-! ### Names that keep their segment -/

/-- Where there is white space at an end of a name, it stands next to an underscore. -/
structure BlanksMerge (cs : List Char) : Prop where
  front : cs.head?.any isSpace = true → (trim cs).head? = some '_'
  back : cs.getLast?.any isSpace = true → (trim cs).getLast? = some '_'

theorem blanksMerge_def : BlanksMerge cs ↔
    (cs.head?.any isSpace = true → (trim cs).head? = some '_') ∧
      (cs.getLast?.any isSpace = true → (trim cs).getLast? = some '_') :=
  ⟨fun h => ⟨h.front, h.back⟩, fun h => ⟨h.1, h.2⟩⟩

instance (cs : List Char) : Decidable (BlanksMerge cs) := decidable_of_iff _ blanksMerge_def.symm

theorem haveHyphen_eq_false_iff {next : Option Char} (h : ∀ c ∈ next, isSpace c = false) :
    haveHyphen back next = false ↔ (back ≠ [] → next = some '_') := by
  cases back with
  | nil => simp [haveHyphen]
  | cons d back =>
    cases next with
    | none => simp [haveHyphen]
    | some c =>
      have hink : isSpace c = false := h c rfl
      simp [haveHyphen, isBlankOrUnderscore, hink]

theorem any_head?_append_iff (hfront : ∀ c ∈ front, isSpace c = true)
    (hink : ∀ c ∈ cs.head?, isSpace c = false) :
    (front ++ cs).head?.any isSpace = true ↔ front ≠ [] := by
  cases front with
  | nil =>
    refine iff_of_false (fun h => ?_) fun h => h rfl
    obtain ⟨c, hc, hspace⟩ := (Option.any_eq_true _ _).mp h
    rw [hink c hc] at hspace
    cases hspace
  | cons c front => simp [hfront c List.mem_cons_self]

theorem any_getLast?_append_iff (hback : ∀ c ∈ back, isSpace c = true)
    (hink : ∀ c ∈ cs.getLast?, isSpace c = false) :
    (cs ++ back).getLast?.any isSpace = true ↔ back ≠ [] := by
  have hback' : ∀ c ∈ back.reverse, isSpace c = true := fun c hc =>
    hback c (List.mem_reverse.mp hc)
  have hink' : ∀ c ∈ cs.reverse.head?, isSpace c = false := by rwa [List.head?_reverse]
  rw [← List.head?_reverse, List.reverse_append, any_head?_append_iff hback' hink', ne_eq,
    List.reverse_eq_nil_iff]

theorem blanksMerge_iff (hcs : cs = front ++ (trim cs ++ back))
    (hfront : ∀ c ∈ front, isSpace c = true) (hback : ∀ c ∈ back, isSpace c = true)
    (hempty : trim cs = [] → back = []) :
    BlanksMerge cs ↔ haveHyphen front (trim cs).head? = false ∧
      haveHyphen back (trim cs).getLast? = false := by
  have hhead : ∀ c ∈ (trim cs).head?, isSpace c = false := fun _ => not_isSpace_of_mem_head?_trim
  have hlast : ∀ c ∈ (trim cs).getLast?, isSpace c = false := fun _ =>
    not_isSpace_of_mem_getLast?_trim
  rw [haveHyphen_eq_false_iff hhead, haveHyphen_eq_false_iff hlast, blanksMerge_def]
  by_cases htrim : trim cs = []
  · -- the name is blank, and all of it is in front
    rw [hempty htrim, htrim, List.append_nil, List.append_nil] at hcs
    rw [htrim, hempty htrim, hcs]
    cases front with
    | nil => simp
    | cons c front => simp [hfront c List.mem_cons_self]
  · have hhead' : ∀ c ∈ (trim cs ++ back).head?, isSpace c = false := by
      rwa [List.head?_append_of_ne_nil _ htrim]
    have hlast' : ∀ c ∈ (front ++ trim cs).getLast?, isSpace c = false := by
      rwa [List.getLast?_append_of_ne_nil _ htrim]
    have hstarts := any_head?_append_iff hfront hhead'
    have hends := any_getLast?_append_iff hback hlast'
    rw [← hcs] at hstarts
    rw [List.append_assoc, ← hcs] at hends
    rw [hstarts, hends]

/-- White space around a name can only lengthen its segment. -/
theorem toList_segment_eq_iff {name : String} {cs : List Char}
    (h : cs.length ≤ (segment (trimmed name)).toList.length) :
    (segment name).toList = cs ↔
      BlanksMerge name.toList ∧ (segment (trimmed name)).toList = cs := by
  obtain ⟨front, back, hname, hfront, hback, hempty, hsegment⟩ := exists_segment_around name
  rw [blanksMerge_iff hname hfront hback hempty, hsegment]
  cases haveHyphen front (trim name.toList).head? with
  | false =>
    cases haveHyphen back (trim name.toList).getLast? with
    | false => simp [hyphenIf]
    | true =>
      refine iff_of_false (fun heq => ?_) (by simp)
      have hlength := congrArg List.length heq
      simp [hyphenIf] at hlength
      omega
  | true =>
    refine iff_of_false (fun heq => ?_) (by simp)
    have hlength := congrArg List.length heq
    simp [hyphenIf] at hlength
    omega

/-- A name has the segment of the trimmed name just when the blanks around it leave no hyphen. -/
theorem segment_eq_segment_trimmed_iff (name : String) :
    segment name = segment (trimmed name) ↔ BlanksMerge name.toList := by
  rw [← String.toList_inj, toList_segment_eq_iff le_rfl, and_iff_left rfl]

/-- A blank that runs into an underscore, and one that does not. -/
example : BlanksMerge " _draft".toList ∧ ¬BlanksMerge "draft ".toList := by decide

end Scaffold.PageName
