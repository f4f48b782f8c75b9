/-!
# Sets of characters and case mappings as data

A character class is an ascending list of code point ranges, a case mapping a list of runs of
letters at a constant distance from their other form. The tables are plain data, so a fact about
all of their entries is settled by evaluation.
-/

namespace Scaffold.Text

/-- Code point ranges, both ends included. -/
abbrev Ranges := List (Nat × Nat)

def Ranges.has (ranges : Ranges) (c : Char) : Bool :=
  ranges.any fun range => range.1 ≤ c.toNat && c.toNat ≤ range.2

theorem Ranges.has_iff {ranges : Ranges} {c : Char} :
    ranges.has c = true ↔ ∃ range ∈ ranges, range.1 ≤ c.toNat ∧ c.toNat ≤ range.2 := by
  simp [Ranges.has]

/-- The letters `first`, `first + step`, …, `last`, each of which has its other form `offset` code
points further on. -/
structure Run where
  first : Nat
  last : Nat
  step : Nat
  offset : Int

def Run.has (run : Run) (c : Char) : Bool :=
  run.first ≤ c.toNat && c.toNat ≤ run.last && (c.toNat - run.first) % run.step == 0

def Run.shift (run : Run) (c : Char) : Char :=
  Char.ofNat (c.toNat + run.offset).toNat

/-- The form of a single character under a case mapping: a row of `special` goes first, a character
in no row and no run is its own form. -/
def mapCase (special : List (Nat × List Nat)) (runs : List Run) (c : Char) : List Char :=
  match special.lookup c.toNat with
  | some form => form.map Char.ofNat
  | none =>
    match runs.find? (·.has c) with
    | some run => [run.shift c]
    | none => [c]

theorem toNat_ofNat {n : Nat} (h : n.isValidChar) : (Char.ofNat n).toNat = n := by
  rw [Char.ofNat, dif_pos h]
  rfl

theorem Run.toNat_shift {run : Run} {c : Char}
    (h : (c.toNat + run.offset).toNat.isValidChar) :
    (run.shift c).toNat = (c.toNat + run.offset).toNat :=
  toNat_ofNat h

/-- The form is found in a row or a run, or is the character itself. -/
theorem mapCase_cases (special : List (Nat × List Nat)) (runs : List Run) (c : Char) :
    mapCase special runs c = [c] ∨
      (∃ row ∈ special, row.1 = c.toNat ∧ mapCase special runs c = row.2.map Char.ofNat) ∨
      ∃ run ∈ runs, run.has c = true ∧ mapCase special runs c = [run.shift c] := by
  unfold mapCase
  split
  · next form hform =>
    obtain ⟨front, back, htable, -⟩ := List.lookup_eq_some_iff.mp hform
    exact .inr (.inl ⟨(c.toNat, form), by simp [htable], rfl, rfl⟩)
  · split
    · next run hrun =>
      exact .inr (.inr ⟨run, List.mem_of_find?_eq_some hrun, by simpa using List.find?_some hrun,
        rfl⟩)
    · exact .inl rfl

end Scaffold.Text
