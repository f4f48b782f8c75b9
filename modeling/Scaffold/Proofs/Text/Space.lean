import Mathlib.Data.List.DropRight
import Scaffold.Text.Space

/-!
# Trimming

No white space is at either end of a trimmed text, so trimming it once more changes nothing. And
nothing but white space is cut off.
-/

namespace Scaffold.Text

theorem trimEnd_isPrefix (cs : List Char) : trimEnd cs <+: cs :=
  List.rdropWhile_prefix isSpace cs

/-- A text that is trimmed at its start stays so when its end is cut off. -/
theorem trimStart_of_isPrefix {front cs : List Char} (h : front <+: trimStart cs) :
    trimStart front = front := by
  rw [trimStart, List.dropWhile_eq_self_iff]
  intro hlength
  have hlength' : 0 < (trimStart cs).length := hlength.trans_le h.length_le
  rw [h.getElem hlength]
  exact List.dropWhile_get_zero_not isSpace cs hlength'

theorem trimStart_trim (cs : List Char) : trimStart (trim cs) = trim cs :=
  trimStart_of_isPrefix (trimEnd_isPrefix _)

theorem trim_trim (cs : List Char) : trim (trim cs) = trim cs := by
  calc trim (trim cs)
      = trimEnd (trim cs) := congrArg trimEnd (trimStart_trim cs)
    _ = trim cs := List.rdropWhile_idempotent isSpace _

/-! ### The ends -/

theorem not_isSpace_of_mem_head?_trim {cs : List Char} {c : Char} (h : c ∈ (trim cs).head?) :
    isSpace c = false := by
  obtain ⟨rest, hrest⟩ := List.head?_eq_some_iff.mp h
  have hstart := trimStart_trim cs
  rw [hrest, trimStart, List.dropWhile_eq_self_iff] at hstart
  simpa using hstart (Nat.succ_pos _)

theorem not_isSpace_of_mem_getLast?_trim {cs : List Char} {c : Char}
    (h : c ∈ (trim cs).getLast?) : isSpace c = false := by
  obtain ⟨hne, rfl⟩ := List.mem_getLast?_eq_getLast h
  exact Bool.eq_false_iff.mpr (List.rdropWhile_last_not isSpace (trimStart cs) hne)

/-- What trimming cuts off is white space; a text of nothing else is cut off at its start. -/
theorem exists_blanks (cs : List Char) :
    ∃ front back, cs = front ++ (trim cs ++ back) ∧ (∀ c ∈ front, isSpace c = true) ∧
      (∀ c ∈ back, isSpace c = true) ∧ (trim cs = [] → back = []) := by
  have hend : trim cs ++ (trimStart cs).rtakeWhile isSpace = trimStart cs :=
    List.rdropWhile_append_rtakeWhile
  refine ⟨cs.takeWhile isSpace, (trimStart cs).rtakeWhile isSpace, ?_,
    fun _ => List.mem_takeWhile_imp, fun _ => List.mem_rtakeWhile_imp, ?_⟩
  · rw [hend]
    exact List.takeWhile_append_dropWhile.symm
  · intro hempty
    have hblank : ∀ c ∈ trimStart cs, isSpace c = true := List.rdropWhile_eq_nil_iff.mp hempty
    have hnil : trimStart cs = [] := by
      by_contra hne
      have hpos : 0 < (trimStart cs).length := List.length_pos_of_ne_nil hne
      exact List.dropWhile_get_zero_not isSpace cs hpos (hblank _ (List.get_mem _ _))
    rw [hnil, List.rtakeWhile_nil]

end Scaffold.Text
