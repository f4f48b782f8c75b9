import Mathlib.Data.List.TakeWhile
import Mathlib.Data.Nat.ModEq
import Scaffold.Text.Ranges

/-!
# Runs of letters

The letters of a run lie at equal steps, and so do the characters that they lead to. The tests below
look at the ends of such a row only, with tests on numbers that are quick to evaluate, so that they
can be made for every entry of a table.
-/

namespace Scaffold.Text

/-! ### Equal steps -/

/-- The number is one of `first`, `first + step`, …, `last`. -/
def InSteps (first last step n : Nat) : Prop :=
  first ≤ n ∧ n ≤ last ∧ (n - first) % step = 0

variable {first last step : Nat} {run : Run} {c d : Char}

theorem Run.has_iff : run.has c = true ↔ InSteps run.first run.last run.step c.toNat := by
  simp [Run.has, InSteps, and_assoc]

/-- All steps from `first` to `last` are in the ranges. -/
def Ranges.covers (ranges : Ranges) (first last step : Nat) : Bool :=
  ranges.any (fun range => Nat.ble last range.2 && Nat.ble range.1 first) ||
    (List.range' first ((last - first) / step + 1) step).all fun n =>
      ranges.any fun range => Nat.ble n range.2 && Nat.ble range.1 n

theorem Ranges.has_of_covers {ranges : Ranges} (h : ranges.covers first last step = true)
    (hc : InSteps first last step c.toNat) : ranges.has c = true := by
  obtain ⟨hfirst, hlast, hstep⟩ := hc
  simp only [covers, Bool.or_eq_true, List.any_eq_true, List.all_eq_true, Bool.and_eq_true,
    Nat.ble_eq] at h
  rw [has_iff]
  rcases h with ⟨range, hrange, hto, hfrom⟩ | h
  · -- one range holds all the steps
    exact ⟨range, hrange, hfrom.trans hfirst, hlast.trans hto⟩
  · -- each step has been looked up
    have hmem : c.toNat ∈ List.range' first ((last - first) / step + 1) step := by
      refine List.mem_range'.mpr ⟨(c.toNat - first) / step, ?_, ?_⟩
      · exact Nat.lt_succ_of_le (Nat.div_le_div_right (Nat.sub_le_sub_right hlast first))
      · rw [Nat.mul_div_cancel' (Nat.dvd_of_mod_eq_zero hstep)]
        omega
    obtain ⟨range, hrange, hto, hfrom⟩ := h _ hmem
    exact ⟨range, hrange, hfrom, hto⟩

/-- Every range of `inner`, which go up, is part of one of the ranges. -/
def Ranges.within (inner : Ranges) : Ranges → Bool
  | [] => inner.isEmpty
  | range :: rest =>
    within (inner.dropWhile fun part => Nat.ble range.1 part.1 && Nat.ble part.2 range.2) rest

theorem Ranges.exists_of_within {inner ranges : Ranges} (h : inner.within ranges = true) :
    ∀ part ∈ inner, ∃ range ∈ ranges, range.1 ≤ part.1 ∧ part.2 ≤ range.2 := by
  induction ranges generalizing inner with
  | nil => simp_all [within]
  | cons range rest ih =>
    intro part hpart
    rw [← List.takeWhile_append_dropWhile (p := fun part =>
      Nat.ble range.1 part.1 && Nat.ble part.2 range.2) (l := inner), List.mem_append] at hpart
    rcases hpart with hpart | hpart
    · have hinside := List.mem_takeWhile_imp hpart
      simp only [Bool.and_eq_true, Nat.ble_eq] at hinside
      exact ⟨range, List.mem_cons_self, hinside⟩
    · obtain ⟨found, hfound, hinside⟩ := ih h part hpart
      exact ⟨found, List.mem_cons_of_mem _ hfound, hinside⟩

/-- No letter of the run is a step from `first` to `last`: they lie apart, or their steps are the
same and pass each other by. -/
def Run.avoids (run : Run) (first last step : Nat) : Bool :=
  Nat.blt last run.first || (Nat.blt run.last first ||
    ((Nat.beq first last || Nat.beq step run.step) &&
      !Nat.beq (first % run.step) (run.first % run.step)))

theorem Run.has_eq_false_of_avoids (h : run.avoids first last step = true)
    (hc : InSteps first last step c.toNat) : run.has c = false := by
  obtain ⟨hfirst, hlast, hstep⟩ := hc
  rw [Bool.eq_false_iff, Ne, Run.has_iff]
  rintro ⟨hfirst', hlast', hstep'⟩
  simp only [avoids, Bool.or_eq_true, Nat.blt_eq, Bool.and_eq_true, Nat.beq_eq,
    Bool.not_eq_true'] at h
  have hmod' : run.first ≡ c.toNat [MOD run.step] :=
    (Nat.modEq_iff_dvd' hfirst').mpr (Nat.dvd_of_mod_eq_zero hstep')
  rcases h with h | h | ⟨hsame, hne⟩
  · omega
  · omega
  · have hmod : first ≡ c.toNat [MOD run.step] := by
      rcases hsame with hsingle | hsame
      · rw [show first = c.toNat by omega]
      · rw [← hsame]
        exact (Nat.modEq_iff_dvd' hfirst).mpr (Nat.dvd_of_mod_eq_zero hstep)
    exact absurd (hmod.trans hmod'.symm) (Nat.ne_of_beq_eq_false hne)

/-! ### What the runs lead to -/

/-- The code points that the first and the last letter of a run lead to. -/
def Run.firstTarget (run : Run) : Nat := (run.first + run.offset).toNat

def Run.lastTarget (run : Run) : Nat := (run.last + run.offset).toNat

/-- The letters of the run lead to characters. -/
def Run.IsValid (run : Run) : Prop :=
  0 ≤ run.first + run.offset ∧
    (run.last + run.offset < 0xD800 ∨
      0xE000 ≤ run.first + run.offset ∧ run.last + run.offset < 0x110000)

instance (run : Run) : Decidable run.IsValid := inferInstanceAs (Decidable (_ ∧ _))

theorem Run.IsValid.inSteps_shift (h : run.IsValid) (hc : run.has c = true) :
    InSteps run.firstTarget run.lastTarget run.step (run.shift c).toNat := by
  obtain ⟨hfirst, hlast, hstep⟩ := Run.has_iff.mp hc
  obtain ⟨hfrom, hto⟩ := h
  have hvalid : (c.toNat + run.offset).toNat.isValidChar := by
    unfold Nat.isValidChar
    omega
  have hshift := Run.toNat_shift hvalid
  have hdistance : (c.toNat + run.offset).toNat - run.firstTarget = c.toNat - run.first := by
    unfold Run.firstTarget
    omega
  rw [hshift]
  refine ⟨?_, ?_, ?_⟩
  · unfold Run.firstTarget
    omega
  · unfold Run.lastTarget
    omega
  · rw [hdistance, hstep]

/-! ### Characters that a mapping leaves alone -/

variable {special : List (Nat × List Nat)} {runs : List Run}

/-- None of the steps from `first` to `last` has a form other than itself under the mapping. -/
def keepsSteps (special : List (Nat × List Nat)) (runs : List Run) (first last step : Nat) : Bool :=
  runs.all (fun run => run.avoids first last step) &&
    special.all fun row => Nat.blt row.1 first || Nat.blt last row.1

theorem mapCase_eq_self (h : keepsSteps special runs first last step = true)
    (hc : InSteps first last step c.toNat) : mapCase special runs c = [c] := by
  simp only [keepsSteps, Bool.and_eq_true, List.all_eq_true, Bool.or_eq_true, Nat.blt_eq] at h
  obtain heq | ⟨row, hrow, hcode, -⟩ | ⟨run, hrun, hhas, -⟩ := mapCase_cases special runs c
  · exact heq
  · have hapart := h.2 row hrow
    obtain ⟨hfirst, hlast, -⟩ := hc
    omega
  · exact absurd hhas (by simp [Run.has_eq_false_of_avoids (h.1 run hrun) hc])

end Scaffold.Text
