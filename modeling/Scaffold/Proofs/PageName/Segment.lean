import Scaffold.PageName
import Scaffold.Proofs.Text.LetterCase

/-!
# What a path segment is made of

A segment is a name with hyphens put in, separators collapsed to hyphens and letters lowered. None
of this touches the other characters of ASCII: they stand in the segment just where they stand in
the name. And a name of which something is there leaves something in its segment.
-/

namespace Scaffold.PageName

open Text

/-! ### Hyphens -/

theorem mem_splitHumps_iff {d : Char} (hd : d ≠ '-') (cs : List Char) :
    d ∈ splitHumps cs ↔ d ∈ cs := by
  fun_induction splitHumps cs with
  | case1 a b rest hhump ih => simp [ih, hd]
  | case2 a b rest hhump ih => simp [ih]
  | case3 cs hcs => rfl

theorem splitHumps_eq_nil_iff {cs : List Char} : splitHumps cs = [] ↔ cs = [] := by
  fun_cases splitHumps cs <;> simp

theorem mem_collapseRuns_iff {d : Char} (hd : d ≠ '-') (hink : isBlankOrUnderscore d = false)
    (inRun : Bool) (cs : List Char) : d ∈ collapseRuns inRun cs ↔ d ∈ cs := by
  induction cs generalizing inRun with
  | nil => rfl
  | cons c rest ih =>
    have hne : isBlankOrUnderscore c = true → d ≠ c := by
      rintro hc rfl
      exact absurd hc (by simp [hink])
    unfold collapseRuns
    split
    · next hc =>
      -- the first character of a run turns into a hyphen, the others go
      cases inRun <;> simp [ih, hne hc, hd]
    · simp [ih]

theorem collapseRuns_eq_nil_iff {cs : List Char} : collapseRuns false cs = [] ↔ cs = [] := by
  cases cs with
  | nil => rfl
  | cons c rest =>
    unfold collapseRuns
    split <;> simp

/-! ### The segment -/

/-- A run is made of separators. -/
theorem not_isBlankOrUnderscore_of_joins {c : Char} (h : isSeparator c = false) :
    isBlankOrUnderscore c = false := by
  simp only [isSeparator, Bool.or_eq_false_iff] at h
  simp [isBlankOrUnderscore, h]

/-- A character that neither joins words nor has a letter case is in the segment of a name just
when it is in the name. -/
theorem mem_segment_iff {d : Char} (hd : isCaseless d = true) (hjoins : isSeparator d = false)
    (name : String) : d ∈ (segment name).toList ↔ d ∈ name.toList := by
  have hhyphen : d ≠ '-' := by
    rintro rfl
    exact absurd hjoins (by decide)
  have hink := not_isBlankOrUnderscore_of_joins hjoins
  rw [segment, String.toList_ofList, mem_lowercase_iff hd, mem_collapseRuns_iff hhyphen hink,
    mem_splitHumps_iff hhyphen]

theorem segment_eq_empty_iff {name : String} : segment name = "" ↔ name = "" := by
  rw [← String.toList_eq_nil_iff, segment, String.toList_ofList, lowercase_eq_nil_iff,
    collapseRuns_eq_nil_iff, splitHumps_eq_nil_iff, String.toList_eq_nil_iff]

/-! ### File names -/

/-- What no system takes for the name of a file in a folder: a path to elsewhere, or nothing. -/
def IsFileName (cs : List Char) : Prop := cs ≠ [] ∧ '/' ∉ cs ∧ '\\' ∉ cs ∧ '\x00' ∉ cs

instance (cs : List Char) : Decidable (IsFileName cs) := inferInstanceAs (Decidable (_ ∧ _))

/-- The segment of a name is a file name just when the name is one. -/
theorem isFileName_segment_iff {name : String} :
    IsFileName (segment name).toList ↔ IsFileName name.toList := by
  have hslash := mem_segment_iff (d := '/') (by decide) (by decide) name
  have hback := mem_segment_iff (d := '\\') (by decide) (by decide) name
  have hnul := mem_segment_iff (d := '\x00') (by decide) (by decide) name
  rw [IsFileName, IsFileName, Ne, Ne, String.toList_eq_nil_iff, String.toList_eq_nil_iff,
    segment_eq_empty_iff, hslash, hback, hnul]

end Scaffold.PageName
