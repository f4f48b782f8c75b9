import Scaffold.Proofs.Text.LowerCase
import Scaffold.Proofs.Text.UpperCase

/-!
# Letters and digits of ASCII

The letters and digits of ASCII are among those of every script, and the only characters of ASCII
with another upper-case form are its small letters.
-/

namespace Scaffold.Text

variable {c : Char}

theorem ascii_of_isAlphanum (h : c.isAlphanum = true) : c.toNat < 128 := by
  change (c.isAlpha || (decide (c.val ≥ 48) && decide (c.val ≤ 57))) = true at h
  rw [Bool.or_eq_true] at h
  rcases h with halpha | hdigit
  · exact ascii_of_isAlpha halpha
  · simp only [Bool.and_eq_true, decide_eq_true_eq, UInt32.le_iff_toNat_le, ge_iff_le] at hdigit
    rw [← Char.toNat_val]
    exact hdigit.2.trans_lt (by decide)

/-- In front of the small letters of ASCII nothing has another upper-case form. -/
theorem isCapital_ascii : isCapital 0 96 1 = true ∧ isCapital 123 127 1 = true := by
  decide +kernel

theorem toUpper_of_not_isLower (h : ¬c.isLower = true) : c.toUpper = c := by
  unfold Char.toUpper
  exact dif_neg fun hrange =>
    h (Bool.and_eq_true_iff.mpr ⟨decide_eq_true hrange.1, decide_eq_true hrange.2⟩)

/-- Within ASCII a letter has its one capital form. -/
theorem upper_of_ascii (hc : c.toNat < 128) : upper c = [c.toUpper] := by
  by_cases hsmall : c.isLower = true
  · have hcapital := forall_ascii (fun c => !c.isLower || upper c == [c.toUpper])
      (by decide +kernel) hc
    simpa [hsmall] using hcapital
  · rw [toUpper_of_not_isLower hsmall]
    rw [isLower_iff] at hsmall
    by_cases hfront : c.toNat ≤ 96
    · exact upper_eq_self_of_isCapital isCapital_ascii.1 ⟨Nat.zero_le _, hfront, Nat.mod_one _⟩
    · exact upper_eq_self_of_isCapital isCapital_ascii.2 ⟨by omega, by omega, Nat.mod_one _⟩

theorem isAlphabetic_of_isAlpha (h : c.isAlpha = true) : isAlphabetic c = true := by
  have hletter := forall_ascii (fun c => !c.isAlpha || isAlphabetic c) (by decide +kernel)
    (ascii_of_isAlpha h)
  simpa [h] using hletter

theorem isAlphanumeric_of_isAlphanum (h : c.isAlphanum = true) : isAlphanumeric c = true := by
  have hdigit := forall_ascii (fun c => !c.isDigit || isNumeric c) (by decide +kernel)
    (ascii_of_isAlphanum h)
  rw [Char.isAlphanum, Bool.or_eq_true] at h
  rcases h with h | h
  · rw [isAlphanumeric, isAlphabetic_of_isAlpha h, Bool.true_or]
  · rw [h, Bool.not_true, Bool.false_or] at hdigit
    rw [isAlphanumeric, hdigit, Bool.or_true]

end Scaffold.Text
