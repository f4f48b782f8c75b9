import Scaffold.Proofs.PageName.Identifier
import Scaffold.Proofs.Text.Table.Identifier

/-!
# Identifiers in declarations

A declaration is named by an identifier with `Page` behind it. For a programming language this is a
name (`IsIdentifierName`) if the letters and digits of the page's name are among those that it knows
and the first of them may stand in front (`isIdentifierName_page_iff`). More characters count as
letters and digits than may stand in a name: enclosed letters, fractions and raised figures do.
-/

namespace Scaffold.PageName

open Text

variable {begins : Bool} {c d : Char} {cs tail : List Char}

/-! ### Names of a programming language -/

/-- A character that may follow in a name of a declaration. -/
def IsPart (c : Char) : Prop := Table.idContinue.has c = true ∨ c = '$'

instance (c : Char) : Decidable (IsPart c) := inferInstanceAs (Decidable (_ ∨ _))

/-- The text is a name that may be declared. -/
def IsIdentifierName : List Char → Prop
  | [] => False
  | c :: rest => (Table.idStart.has c = true ∨ c = '$' ∨ c = '_') ∧ ∀ d ∈ rest, IsPart d

/-! ### The tables -/

/-- Letters in a circle or a square, and a sign that counts as one. -/
def enclosedLetters : Ranges :=
  [(0x24B6, 0x24E9), (0x2E2F, 0x2E2F), (0x1F130, 0x1F149), (0x1F150, 0x1F169), (0x1F170, 0x1F189)]

/-- What may stand in a name: what may start one, the letters but for the enclosed ones, and the
letters whose upper-case form takes several characters, with these characters. -/
theorem within_idContinue :
    Ranges.within Table.idStart Table.idContinue ∧
    Ranges.within (Table.alphabetic.filter fun range => !enclosedLetters.contains range)
      Table.idContinue ∧
    Ranges.within (Table.upperSpecial.map fun row => (row.1, row.1)) Table.idContinue ∧
    (Table.upperSpecial.all fun row =>
      row.2.all fun n => Table.idContinue.covers n n 1) = true := by
  decide +kernel

/-- The run leads neither into the range nor out of it. -/
def isClosed (range : Nat × Nat) (run : Run) : Bool :=
  ((Nat.blt run.last range.1 || Nat.blt range.2 run.first) &&
      (Nat.blt run.lastTarget range.1 || Nat.blt range.2 run.firstTarget)) ||
    (Nat.ble range.1 run.first && Nat.ble run.last range.2 &&
      (Nat.ble range.1 run.firstTarget && Nat.ble run.lastTarget range.2))

/-- Enclosed letters may not stand in a name, and no run leads to them but from among them. -/
theorem enclosedLetters_spec :
    (enclosedLetters.all fun letters =>
      (Table.idContinue.all fun range =>
        Nat.blt letters.2 range.1 || Nat.blt range.2 letters.1) &&
      Table.upperRuns.all (isClosed letters)) = true := by
  decide +kernel

/-! ### Letters -/

theorem idContinue_has_of_idStart_has (h : Table.idStart.has c = true) :
    Table.idContinue.has c = true := by
  obtain ⟨part, hpart, hfrom, hto⟩ := Ranges.has_iff.mp h
  obtain ⟨range, hrange, hfrom', hto'⟩ := Ranges.exists_of_within within_idContinue.1 part hpart
  exact Ranges.has_iff.mpr ⟨range, hrange, hfrom'.trans hfrom, hto.trans hto'⟩

/-- A letter may stand in a name unless it is enclosed. -/
theorem idContinue_has_iff (h : isAlphabetic c = true) :
    Table.idContinue.has c = true ↔ ¬enclosedLetters.has c = true := by
  constructor
  · intro hcontinue henclosed
    obtain ⟨letters, hletters, hfrom, hto⟩ := Ranges.has_iff.mp henclosed
    obtain ⟨range, hrange, hfrom', hto'⟩ := Ranges.has_iff.mp hcontinue
    have hspec := List.all_eq_true.mp enclosedLetters_spec letters hletters
    simp only [Bool.and_eq_true] at hspec
    have hapart := List.all_eq_true.mp hspec.1 range hrange
    simp only [Bool.or_eq_true, Nat.blt_eq] at hapart
    omega
  · intro hplain
    obtain ⟨part, hpart, hfrom, hto⟩ := Ranges.has_iff.mp h
    have hmem : part ∈ Table.alphabetic.filter fun range => !enclosedLetters.contains range := by
      refine List.mem_filter.mpr ⟨hpart, ?_⟩
      simp only [Bool.not_eq_true', List.contains_eq_mem, decide_eq_false_iff_not]
      exact fun hletters => hplain (Ranges.has_iff.mpr ⟨part, hletters, hfrom, hto⟩)
    obtain ⟨range, hrange, hfrom', hto'⟩ := Ranges.exists_of_within within_idContinue.2.1 part hmem
    exact Ranges.has_iff.mpr ⟨range, hrange, hfrom'.trans hfrom, hto.trans hto'⟩

theorem isPart_iff (h : isAlphanumeric c = true) :
    IsPart c ↔ Table.idContinue.has c = true := by
  refine or_iff_left ?_
  rintro rfl
  exact absurd h (by simp [not_isAlphanumeric_sign])

theorem isAlphanumeric_of_isAlphabetic (h : isAlphabetic c = true) : isAlphanumeric c = true := by
  rw [isAlphanumeric, h, Bool.true_or]

/-- A run leads from an enclosed letter to another, and from no other to one. -/
theorem enclosedLetters_has_shift {run : Run} (hrun : run ∈ Table.upperRuns)
    (h : run.has c = true) :
    enclosedLetters.has (run.shift c) = true ↔ enclosedLetters.has c = true := by
  obtain ⟨hfirst, hlast, -⟩ := Run.has_iff.mp h
  obtain ⟨hfirst', hlast', -⟩ := (upperRuns_isValid run hrun).inSteps_shift h
  rw [Ranges.has_iff, Ranges.has_iff]
  refine exists_congr fun range => and_congr_right fun hrange => ?_
  have hspec := List.all_eq_true.mp enclosedLetters_spec range hrange
  simp only [Bool.and_eq_true] at hspec
  have hclosed := List.all_eq_true.mp hspec.2 run hrun
  simp only [isClosed, Bool.or_eq_true, Bool.and_eq_true, Nat.blt_eq, Nat.ble_eq] at hclosed
  omega

/-- Of a letter's upper-case form what is kept may stand in a name just when the letter may. -/
theorem isPart_upper_iff (h : isAlphabetic c = true) :
    (∀ d ∈ (upper c).filter isIdentifierChar, IsPart d) ↔ Table.idContinue.has c = true := by
  obtain heq | ⟨row, hrow, hcode, heq⟩ | ⟨run, hrun, hhas, heq⟩ := upper_cases c
  · rw [heq, List.filter_cons_of_pos (isIdentifierChar_of_isAlphabetic h), List.filter_nil,
      List.forall_mem_singleton, isPart_iff (isAlphanumeric_of_isAlphabetic h)]
  · -- neither the letter nor any character of its form is enclosed
    have hspec := List.all_eq_true.mp upperSpecial_spec row hrow
    have hcovers := List.all_eq_true.mp within_idContinue.2.2.2 row hrow
    simp only [Bool.and_eq_true, List.all_eq_true, Nat.blt_eq] at hspec hcovers
    obtain ⟨range, hrange, hfrom, hto⟩ :=
      Ranges.exists_of_within within_idContinue.2.2.1 _ (List.mem_map_of_mem hrow)
    refine iff_of_true ?_
      (Ranges.has_iff.mpr ⟨range, hrange, hfrom.trans hcode.le, hcode.ge.trans hto⟩)
    intro d hd
    rw [heq] at hd
    obtain ⟨n, hn, rfl⟩ := List.mem_map.mp (List.mem_filter.mp hd).1
    have hself := toNat_ofNat (.inl (hspec.1 n hn))
    exact .inl (Ranges.has_of_covers (hcovers n hn) ⟨hself.ge, hself.le, Nat.mod_one _⟩)
  · -- the letters of a run are enclosed just when those are that they lead to
    have hletter := isAlphabetic_shift hrun hhas
    rw [heq, List.filter_cons_of_pos (isIdentifierChar_of_isAlphabetic hletter), List.filter_nil,
      List.forall_mem_singleton, isPart_iff (isAlphanumeric_of_isAlphabetic hletter),
      idContinue_has_iff hletter, enclosedLetters_has_shift hrun hhas, idContinue_has_iff h]

/-! ### What is kept of a name -/

theorem forall_isPart_self_iff (hc : isSeparator c = false) :
    (∀ d ∈ [c].filter isIdentifierChar, IsPart d) ↔
      (isAlphanumeric c = true → Table.idContinue.has c = true) := by
  by_cases h : isAlphanumeric c = true
  · have hkeep : isIdentifierChar c = true := by
      rw [isIdentifierChar, h, Bool.true_or, Bool.true_or]
    rw [List.filter_cons_of_pos hkeep, List.filter_nil, List.forall_mem_singleton, isPart_iff h,
      forall_prop_of_true h]
  · refine iff_of_true ?_ fun h' => absurd h' h
    intro d hd
    obtain ⟨hmem, hkeep⟩ := List.mem_filter.mp hd
    obtain rfl := List.mem_singleton.mp hmem
    simp only [isIdentifierChar, Bool.or_eq_true, beq_iff_eq] at hkeep
    obtain (hletter | rfl) | hdollar := hkeep
    · exact absurd hletter h
    · exact absurd hc (by decide)
    · exact .inr hdollar

theorem forall_isPart_form_iff (hc : isSeparator c = false) :
    (∀ d ∈ (if begins then upper c else [c]).filter isIdentifierChar, IsPart d) ↔
      (isAlphanumeric c = true → Table.idContinue.has c = true) := by
  cases begins with
  | false => exact forall_isPart_self_iff hc
  | true =>
    by_cases h : isAlphabetic c = true
    · rw [forall_prop_of_true (isAlphanumeric_of_isAlphabetic h)]
      exact isPart_upper_iff h
    · rw [if_pos rfl, upper_of_not_isAlphabetic h]
      exact forall_isPart_self_iff hc

/-- What is kept of a name may stand in one just when all letters and digits of it may. -/
theorem forall_isPart_kept_iff :
    (∀ d ∈ kept begins cs, IsPart d) ↔
      ∀ c ∈ cs, isAlphanumeric c = true → Table.idContinue.has c = true := by
  induction cs generalizing begins with
  | nil => simp [kept]
  | cons c rest ih =>
    rw [List.forall_mem_cons]
    by_cases hc : isSeparator c = true
    · have hother : ¬isAlphanumeric c = true := fun h =>
        absurd hc (by simp [isSeparator_of_isAlphanumeric h])
      rw [kept, compactFrom, if_pos hc, ← kept, ih]
      simp [hother]
    · rw [kept, compactFrom, if_neg hc, List.filter_append, List.forall_mem_append, ← kept, ih]
      exact and_congr_left' (forall_isPart_form_iff (by simpa using hc))

theorem all_isPart_page : ("Page".toList.all fun d => decide (IsPart d)) = true := by
  decide

/-- The first character that is kept of a name, if it is a letter, may start one. -/
def StartsAllowed (name : String) : Prop :=
  ∀ begins c, initial? true name.toList = some (begins, c) → isAlphabetic c = true →
    ∀ d ∈ (if begins then upper c else [c]).head?, Table.idStart.has d = true

theorem startsAllowed_iff (name : String) :
    StartsAllowed name ↔
      ∀ c ∈ (kept true name.toList).head?, isAlphabetic c = true → Table.idStart.has c = true := by
  cases hinitial : initial? true name.toList with
  | none => simp [StartsAllowed, hinitial, kept_of_initial?_eq_none hinitial]
  | some found =>
    obtain ⟨begins, c⟩ := found
    have hstarts : StartsAllowed name ↔ (isAlphabetic c = true →
        ∀ d ∈ (if begins then upper c else [c]).head?, Table.idStart.has d = true) := by
      simp [StartsAllowed, hinitial]
    rw [hstarts, head?_kept hinitial]
    by_cases hc : isAlphabetic c = true
    · obtain ⟨d, hd, hletter⟩ : ∃ d, (if begins then upper c else [c]).head? = some d ∧
          isAlphabetic d = true := by
        cases begins with
        | true =>
          obtain ⟨d, rest, hupper, hletter, -⟩ := exists_upper_eq_cons hc
          exact ⟨d, by simp [hupper], hletter⟩
        | false => exact ⟨c, rfl, hc⟩
      simp [hd, hc, hletter]
    · have hform : (if begins then upper c else [c]) = [c] := by
        rw [upper_of_not_isAlphabetic hc, ite_self]
      simp [hform, hc]

/-- Which names of a page give a name that may be declared: those of which each letter and digit may
stand in a name, and the first letter at its start. -/
theorem isIdentifierName_page_iff (name : String) :
    IsIdentifierName (identifier name ++ "Page").toList ↔
      (∀ c ∈ name.toList, isAlphanumeric c = true → Table.idContinue.has c = true) ∧
        StartsAllowed name := by
  have hpage : ∀ d ∈ "Page".toList, IsPart d := by
    simpa only [decide_eq_true_eq] using List.all_eq_true.mp all_isPart_page
  rw [← @forall_isPart_kept_iff true, startsAllowed_iff, String.toList_append, toList_identifier]
  split
  · next h =>
    obtain ⟨c, hc, hletter⟩ := (Option.any_eq_true _ _).mp h
    obtain ⟨tail, htail⟩ := List.head?_eq_some_iff.mp hc
    have hstart : (Table.idStart.has c = true ∨ c = '$' ∨ c = '_') ↔
        Table.idStart.has c = true := by
      refine or_iff_left ?_
      rintro (rfl | rfl) <;> exact absurd hletter (by decide +kernel)
    rw [htail, List.cons_append, IsIdentifierName, hstart, List.forall_mem_append,
      List.forall_mem_cons, and_iff_left hpage]
    constructor
    · rintro ⟨hc, htail⟩
      exact ⟨⟨.inl (idContinue_has_of_idStart_has hc), htail⟩, by simpa [hletter] using hc⟩
    · rintro ⟨⟨-, htail⟩, hc⟩
      exact ⟨hc c rfl hletter, htail⟩
  · next h =>
    have hkept : ∀ c ∈ (kept true name.toList).head?, isAlphabetic c = true →
        Table.idStart.has c = true := by
      intro c hc hletter
      exact absurd ((Option.any_eq_true _ _).mpr ⟨c, hc, hletter⟩) h
    have hfront : "Page".toList = 'P' :: "age".toList := rfl
    have hrest : ∀ d ∈ "age".toList, IsPart d := (List.forall_mem_cons.mp (hfront ▸ hpage)).2
    have hstart : Table.idStart.has 'P' = true := by decide +kernel
    rw [and_iff_left hkept, hfront, List.cons_append, List.cons_append, IsIdentifierName,
      and_iff_right (.inl hstart), List.forall_mem_append, List.forall_mem_append, ← hfront,
      and_iff_left hpage, and_iff_right hrest]

/-- A raised figure counts as a digit. -/
theorem not_forall_isIdentifierName_page :
    ¬∀ name, IsIdentifierName (identifier name ++ "Page").toList := by
  refine not_forall_of_exists_not ⟨"x²", ?_⟩
  have hidentifier : (identifier "x²" ++ "Page").toList = ['X', '²', 'P', 'a', 'g', 'e'] := by
    decide +kernel
  have hfigure : ¬IsPart '²' := by decide +kernel
  rw [hidentifier]
  exact fun hname => hfigure (hname.2 '²' (.head _))

end Scaffold.PageName
