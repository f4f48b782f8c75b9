import Scaffold.Text.LetterCase

/-!
# What lower-casing writes

Lower-casing changes capital letters of ASCII and characters beyond ASCII only, and writes small
letters of ASCII and characters beyond ASCII only. So any other character stands in the lower-case
form of a text just where it stands in the text. That the tables are so is checked row by row.
-/

namespace Scaffold.Text

/-! ### A character -/

/-- A character of ASCII that is no letter. -/
def isCaseless (c : Char) : Bool := c.toNat < 128 && !c.isAlpha

theorem isCaseless_iff {c : Char} :
    isCaseless c = true ↔
      c.toNat < 128 ∧ (c.toNat < 65 ∨ 90 < c.toNat) ∧ (c.toNat < 97 ∨ 122 < c.toNat) := by
  change (decide (c.toNat < 128) && !(decide (c.val ≥ 65 ∧ c.val ≤ 90) ||
    (decide (c.val ≥ 97) && decide (c.val ≤ 122)))) = true ↔ _
  simp [UInt32.le_iff_toNat_le, ← Char.toNat_val]

/-- The run starts at capital letters or beyond ASCII, and leads to characters that are small
letters or beyond ASCII. -/
def Run.isLowering (run : Run) : Prop :=
  (65 ≤ run.first ∧ run.last ≤ 90 ∨ 128 ≤ run.first) ∧
    (97 ≤ run.first + run.offset ∧ run.last + run.offset ≤ 122 ∨
      128 ≤ run.first + run.offset ∧ run.last + run.offset < 0xD800 ∨
      0xE000 ≤ run.first + run.offset ∧ run.last + run.offset < 0x110000)

instance (run : Run) : Decidable run.isLowering := inferInstanceAs (Decidable (_ ∧ _))

theorem lowerRuns_isLowering : ∀ run ∈ Table.lowerRuns, run.isLowering := by
  decide +kernel

theorem lowerSpecial_spec :
    ∀ row ∈ Table.lowerSpecial,
      128 ≤ row.1 ∧ row.2 ≠ [] ∧ ∀ n ∈ row.2, isCaseless (Char.ofNat n) = false := by
  decide

theorem Run.isLowering.not_isCaseless {run : Run} (h : run.isLowering) {c : Char}
    (hc : run.has c = true) : isCaseless c = false ∧ isCaseless (run.shift c) = false := by
  have hrange : run.first ≤ c.toNat ∧ c.toNat ≤ run.last := by
    simp only [Run.has, Bool.and_eq_true, decide_eq_true_eq] at hc
    exact hc.1
  obtain ⟨hfrom, hto⟩ := h
  have hvalid : (c.toNat + run.offset).toNat.isValidChar := by
    unfold Nat.isValidChar
    omega
  have hshift := Run.toNat_shift hvalid
  constructor
  · rw [Bool.eq_false_iff, Ne, isCaseless_iff]
    omega
  · rw [Bool.eq_false_iff, Ne, isCaseless_iff, hshift]
    omega

/-- A character without letter case is kept, and no other is turned into one. -/
theorem lower_spec (c : Char) :
    lower c ≠ [] ∧
      (lower c = [c] ∨ isCaseless c = false ∧ ∀ d ∈ lower c, isCaseless d = false) := by
  obtain heq | ⟨row, hrow, hcode, heq⟩ | ⟨run, hrun, hhas, heq⟩ :=
    mapCase_cases Table.lowerSpecial Table.lowerRuns c
  · exact ⟨by simp [lower, heq], .inl heq⟩
  · obtain ⟨hfrom, hne, hto⟩ := lowerSpecial_spec row hrow
    rw [lower, heq]
    refine ⟨by simpa using hne, .inr ⟨?_, by simpa using hto⟩⟩
    rw [Bool.eq_false_iff, Ne, isCaseless_iff]
    omega
  · obtain ⟨hc, hshift⟩ := (lowerRuns_isLowering run hrun).not_isCaseless hhas
    rw [lower, heq]
    exact ⟨by simp, .inr ⟨hc, by simpa using hshift⟩⟩

theorem mem_lower_iff {c d : Char} (hd : isCaseless d = true) : d ∈ lower c ↔ d = c := by
  obtain ⟨-, heq | ⟨hc, hmem⟩⟩ := lower_spec c
  · rw [heq, List.mem_singleton]
  · constructor
    · intro h
      exact absurd hd (by simp [hmem d h])
    · rintro rfl
      exact absurd hd (by simp [hc])

/-! ### A text -/

/-- Lower-casing goes character by character, also where it depends on what stands around. -/
theorem lowercaseAfter_cons (before : List Char) (c : Char) (rest : List Char) :
    ∃ form, lowercaseAfter before (c :: rest) = form ++ lowercaseAfter (c :: before) rest ∧
      form ≠ [] ∧ ∀ d, isCaseless d = true → (d ∈ form ↔ d = c) := by
  by_cases hc : c = 'Σ'
  · -- which of the small letters it is depends on the place, and neither is of ASCII
    subst hc
    refine ⟨[if startsCased before && !startsCased rest then 'ς' else 'σ'], rfl, by simp, ?_⟩
    intro d hd
    constructor
    · intro hmem
      have hsigma : d = 'ς' ∨ d = 'σ' := by
        rw [List.mem_singleton] at hmem
        split at hmem
        · exact .inl hmem
        · exact .inr hmem
      rcases hsigma with rfl | rfl <;> exact absurd hd (by decide)
    · rintro rfl
      exact absurd hd (by decide)
  · refine ⟨lower c, ?_, (lower_spec c).1, fun d hd => mem_lower_iff hd⟩
    rw [lowercaseAfter]
    exact hc

theorem mem_lowercaseAfter_iff {d : Char} (hd : isCaseless d = true) (before cs : List Char) :
    d ∈ lowercaseAfter before cs ↔ d ∈ cs := by
  induction cs generalizing before with
  | nil => rfl
  | cons c rest ih =>
    obtain ⟨form, heq, -, hform⟩ := lowercaseAfter_cons before c rest
    rw [heq, List.mem_append, hform d hd, ih, List.mem_cons]

theorem mem_lowercase_iff {d : Char} (hd : isCaseless d = true) {cs : List Char} :
    d ∈ lowercase cs ↔ d ∈ cs :=
  mem_lowercaseAfter_iff hd [] cs

theorem lowercase_eq_nil_iff {cs : List Char} : lowercase cs = [] ↔ cs = [] := by
  cases cs with
  | nil => rfl
  | cons c rest =>
    obtain ⟨form, heq, hne, -⟩ := lowercaseAfter_cons [] c rest
    simp [lowercase, heq, hne]

end Scaffold.Text
