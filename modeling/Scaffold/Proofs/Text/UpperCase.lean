import Scaffold.Proofs.Text.SpanTree
import Scaffold.Text.Letter
import Scaffold.Text.LetterCase
import Scaffold.Text.Space

/-!
# What upper-casing writes

Letters only have an upper-case form other than themselves, and such a form starts with a letter
that is its own upper-case form (`exists_upper_eq_cons`). That the tables are so is checked row by
row, and for the letters of a run all at once: from their first and last code point, which are
looked up in trees of the tables.
-/

namespace Scaffold.Text

variable {first last step : Nat} {c : Char}

/-! ### The tables -/

/-- None of the steps from `first` to `last` has an upper-case form other than itself. -/
def isCapital (first last step : Nat) : Bool :=
  Table.upperRuns.all (fun run => run.avoids first last step) &&
    Table.upperSpecial.all fun row => Nat.blt row.1 first || Nat.blt last row.1

/-- Only letters are in runs and rows. -/
theorem upper_within :
    Ranges.within (Table.upperRuns.map fun run => (run.first, run.last)) Table.alphabetic ∧
    Ranges.within (Table.upperSpecial.map fun row => (row.1, row.1)) Table.alphabetic := by
  decide +kernel

/-- `isCapital`, by the trees of the tables. -/
def treesCapital (first last step : Nat) : Bool :=
  treesKeep (SpanTree.ofRows Table.upperSpecial) (SpanTree.ofRows Table.upperRuns) first last step

/-- The runs lead to letters, and no further. -/
theorem upperRuns_spec :
    (Table.upperRuns.all fun run =>
      decide run.IsValid &&
        (treesCover (SpanTree.ofRows Table.alphabetic) run.firstTarget run.lastTarget run.step &&
          treesCapital run.firstTarget run.lastTarget run.step)) = true := by
  decide +kernel

theorem upperRuns_isValid : ∀ run ∈ Table.upperRuns, run.IsValid := by
  intro run hrun
  have hspec := List.all_eq_true.mp upperRuns_spec run hrun
  simp only [Bool.and_eq_true, decide_eq_true_eq] at hspec
  exact hspec.1

/-- The rows lead to texts that start with a letter, and no further. -/
theorem upperSpecial_spec :
    (Table.upperSpecial.all fun row =>
      row.2.all (fun n => Nat.blt n 0xD800) &&
        row.2.head?.any fun n =>
          treesCover (SpanTree.ofRows Table.alphabetic) n n 1 && treesCapital n n 1) = true := by
  decide +kernel

/-! ### A character -/

theorem upper_cases (c : Char) :
    upper c = [c] ∨
      (∃ row ∈ Table.upperSpecial, row.1 = c.toNat ∧ upper c = row.2.map Char.ofNat) ∨
      ∃ run ∈ Table.upperRuns, run.has c = true ∧ upper c = [run.shift c] :=
  mapCase_cases Table.upperSpecial Table.upperRuns c

theorem isCapital_of_treesCapital (h : treesCapital first last step = true) :
    isCapital first last step = true :=
  keepsSteps_of_treesKeep h

theorem upper_eq_self_of_isCapital (h : isCapital first last step = true)
    (hc : InSteps first last step c.toNat) : upper c = [c] :=
  mapCase_eq_self h hc

/-- Only letters have an upper-case form other than themselves. -/
theorem isAlphabetic_of_upper_ne (h : upper c ≠ [c]) : isAlphabetic c = true := by
  obtain heq | ⟨row, hrow, hcode, -⟩ | ⟨run, hrun, hhas, -⟩ := upper_cases c
  · exact absurd heq h
  · obtain ⟨range, hrange, hfrom, hto⟩ :=
      Ranges.exists_of_within upper_within.2 _ (List.mem_map_of_mem hrow)
    exact Ranges.has_iff.mpr ⟨range, hrange, hfrom.trans hcode.le, hcode.ge.trans hto⟩
  · obtain ⟨range, hrange, hfrom, hto⟩ :=
      Ranges.exists_of_within upper_within.1 _ (List.mem_map_of_mem hrun)
    obtain ⟨hfirst, hlast, -⟩ := Run.has_iff.mp hhas
    exact Ranges.has_iff.mpr ⟨range, hrange, hfrom.trans hfirst, hlast.trans hto⟩

theorem isAlphabetic_shift {run : Run} (hrun : run ∈ Table.upperRuns) (h : run.has c = true) :
    isAlphabetic (run.shift c) = true := by
  have hspec := List.all_eq_true.mp upperRuns_spec run hrun
  simp only [Bool.and_eq_true] at hspec
  exact Ranges.has_of_covers (covers_of_treesCover hspec.2.1)
    ((upperRuns_isValid run hrun).inSteps_shift h)

/-- The upper-case form of a letter starts with a letter that is a capital itself. -/
theorem exists_upper_eq_cons (h : isAlphabetic c = true) :
    ∃ d rest, upper c = d :: rest ∧ isAlphabetic d = true ∧ upper d = [d] := by
  obtain heq | ⟨row, hrow, -, heq⟩ | ⟨run, hrun, hhas, heq⟩ := upper_cases c
  · exact ⟨c, [], heq, h, heq⟩
  · have hspec := List.all_eq_true.mp upperSpecial_spec row hrow
    simp only [Bool.and_eq_true, List.all_eq_true, Option.any_eq_true, Nat.blt_eq] at hspec
    obtain ⟨hforms, n, hn, hletter, hcapital⟩ := hspec
    obtain ⟨rest, hrest⟩ := List.head?_eq_some_iff.mp hn
    have hcode := toNat_ofNat (.inl (hforms n (List.mem_of_mem_head? hn)))
    have hself : InSteps n n 1 (Char.ofNat n).toNat := ⟨hcode.ge, hcode.le, Nat.mod_one _⟩
    exact ⟨Char.ofNat n, rest.map Char.ofNat, by rw [heq, hrest, List.map_cons],
      Ranges.has_of_covers (covers_of_treesCover hletter) hself,
      upper_eq_self_of_isCapital (isCapital_of_treesCapital hcapital) hself⟩
  · have hspec := List.all_eq_true.mp upperRuns_spec run hrun
    simp only [Bool.and_eq_true] at hspec
    exact ⟨run.shift c, [], heq, isAlphabetic_shift hrun hhas,
      upper_eq_self_of_isCapital (isCapital_of_treesCapital hspec.2.2)
        ((upperRuns_isValid run hrun).inSteps_shift hhas)⟩

end Scaffold.Text
