import Scaffold.Proofs.Text.LetterCase
import Scaffold.Proofs.Text.SpanTree
import Scaffold.Text.Space

/-!
# Texts in lower case

What lower-casing writes is left alone by it, so a text in lower case is its own lower-case form
(`lowercase_eq_self`). White space is neither changed nor written. A character that is not cased,
such as a hyphen, parts a text into two that are lower-cased each on its own
(`lowercase_append_cons`), for a final sigma looks no further than to it.

Beyond ASCII two characters only have something of ASCII in their form: the sign of the kelvin,
which is lowered to `k`, and the dotted capital `İ`, of which the dot is left behind an `i`. So a
text that is lowered to one of ASCII without `k` was written in ASCII itself (`ascii_of_lowercase`),
where lower-casing goes letter by letter (`lowercase_of_ascii`).
-/

namespace Scaffold.Text

variable {c d : Char} {before cs : List Char}

/-! ### The tables -/

theorem lowerRuns_isValid : ∀ run ∈ Table.lowerRuns, run.IsValid := by
  intro run hrun
  obtain ⟨-, hto⟩ := lowerRuns_isLowering run hrun
  unfold Run.IsValid
  omega

/-- The runs lead to characters that lower-casing leaves alone, and to no white space. From beyond
ASCII none leads into it, but for the one to `k`. -/
theorem lowerRuns_spec :
    (Table.lowerRuns.all fun run =>
      treesKeep (SpanTree.ofRows Table.lowerSpecial) (SpanTree.ofRows Table.lowerRuns)
          run.firstTarget run.lastTarget run.step &&
        (whiteSpace.all fun blank =>
          Nat.blt blank.2 run.firstTarget || Nat.blt run.lastTarget blank.1) &&
        (Nat.blt run.last 128 || (Nat.ble 128 run.firstTarget ||
          (Nat.beq run.firstTarget 0x6B && Nat.beq run.lastTarget 0x6B)))) = true := by
  decide +kernel

/-- The same of the forms that take several characters. -/
theorem lowerSpecial_settles :
    ∀ row ∈ Table.lowerSpecial,
      (∀ n ∈ row.2, lower (Char.ofNat n) = [Char.ofNat n] ∧ isSpace (Char.ofNat n) = false) ∧
        ∃ n ∈ row.2, 128 ≤ (Char.ofNat n).toNat := by
  decide +kernel

/-! ### A character -/

theorem lower_cases (c : Char) :
    lower c = [c] ∨
      (∃ row ∈ Table.lowerSpecial, row.1 = c.toNat ∧ lower c = row.2.map Char.ofNat) ∨
      ∃ run ∈ Table.lowerRuns, run.has c = true ∧ lower c = [run.shift c] :=
  mapCase_cases Table.lowerSpecial Table.lowerRuns c

theorem lower_of_mem_lower (h : d ∈ lower c) : lower d = [d] := by
  obtain heq | ⟨row, hrow, -, heq⟩ | ⟨run, hrun, hhas, heq⟩ := lower_cases c
  · rw [heq, List.mem_singleton] at h
    rw [h]
    exact heq
  · rw [heq] at h
    obtain ⟨n, hn, rfl⟩ := List.mem_map.mp h
    exact ((lowerSpecial_settles row hrow).1 n hn).1
  · rw [heq, List.mem_singleton] at h
    rw [h]
    have hspec := List.all_eq_true.mp lowerRuns_spec run hrun
    simp only [Bool.and_eq_true] at hspec
    exact mapCase_eq_self (keepsSteps_of_treesKeep hspec.1.1)
      ((lowerRuns_isValid run hrun).inSteps_shift hhas)

theorem eq_of_isSpace_of_mem_lower (hd : isSpace d = true) (h : d ∈ lower c) : d = c := by
  obtain heq | ⟨row, hrow, -, heq⟩ | ⟨run, hrun, hhas, heq⟩ := lower_cases c
  · rwa [heq, List.mem_singleton] at h
  · rw [heq] at h
    obtain ⟨n, hn, rfl⟩ := List.mem_map.mp h
    exact absurd hd (by simp [((lowerSpecial_settles row hrow).1 n hn).2])
  · rw [heq, List.mem_singleton] at h
    subst h
    exfalso
    obtain ⟨blank, hblank, hfrom, hto⟩ := Ranges.has_iff.mp hd
    obtain ⟨hfirst, hlast, -⟩ := (lowerRuns_isValid run hrun).inSteps_shift hhas
    have hspec := List.all_eq_true.mp lowerRuns_spec run hrun
    simp only [Bool.and_eq_true] at hspec
    have hapart := List.all_eq_true.mp hspec.1.2 blank hblank
    simp only [Bool.or_eq_true, Nat.blt_eq] at hapart
    omega

/-- Something of a form stays beyond ASCII, or it is the `k` of the kelvin. -/
theorem exists_mem_lower_beyond (hc : 128 ≤ c.toNat) : ∃ d ∈ lower c, 128 ≤ d.toNat ∨ d = 'k' := by
  obtain heq | ⟨row, hrow, -, heq⟩ | ⟨run, hrun, hhas, heq⟩ := lower_cases c
  · exact ⟨c, by simp [heq], .inl hc⟩
  · obtain ⟨n, hn, hbeyond⟩ := (lowerSpecial_settles row hrow).2
    refine ⟨Char.ofNat n, ?_, .inl hbeyond⟩
    rw [heq]
    exact List.mem_map_of_mem hn
  · refine ⟨run.shift c, by simp [heq], ?_⟩
    obtain ⟨-, hlast, -⟩ := Run.has_iff.mp hhas
    obtain ⟨hfrom, hto, -⟩ := (lowerRuns_isValid run hrun).inSteps_shift hhas
    have hspec := List.all_eq_true.mp lowerRuns_spec run hrun
    simp only [Bool.or_eq_true, Bool.and_eq_true, Nat.blt_eq, Nat.ble_eq, Nat.beq_eq] at hspec
    rcases hspec.2 with hinside | hbeyond | ⟨hfirst, hlast⟩
    · omega
    · exact .inl (hbeyond.trans hfrom)
    · right
      apply Char.toNat_inj.mp
      show (run.shift c).toNat = 0x6B
      omega

/-! ### Letters of ASCII -/

/-- A test of the characters of ASCII, made on their code points. -/
theorem forall_ascii (p : Char → Bool) (h : ((List.range 128).all fun n => p (Char.ofNat n)) = true)
    (hc : c.toNat < 128) : p c = true := by
  have hcode := List.all_eq_true.mp h c.toNat (List.mem_range.mpr hc)
  rwa [Char.ofNat_toNat] at hcode

theorem isUpper_iff : c.isUpper = true ↔ 65 ≤ c.toNat ∧ c.toNat ≤ 90 := by
  change decide (c.val ≥ 65 ∧ c.val ≤ 90) = true ↔ _
  simp [UInt32.le_iff_toNat_le, ← Char.toNat_val]

theorem isLower_iff : c.isLower = true ↔ 97 ≤ c.toNat ∧ c.toNat ≤ 122 := by
  change (decide (c.val ≥ 97) && decide (c.val ≤ 122)) = true ↔ _
  simp [UInt32.le_iff_toNat_le, ← Char.toNat_val]

theorem isAlpha_iff : c.isAlpha = true ↔ c.isUpper = true ∨ c.isLower = true := by
  change (c.isUpper || c.isLower) = true ↔ _
  rw [Bool.or_eq_true]

theorem ascii_of_isAlpha (h : c.isAlpha = true) : c.toNat < 128 := by
  rw [isAlpha_iff, isUpper_iff, isLower_iff] at h
  omega

theorem toLower_of_not_isUpper (h : ¬c.isUpper = true) : c.toLower = c := by
  unfold Char.toLower
  exact dif_neg fun hrange => h (decide_eq_true hrange)

/-- In front of the capitals of ASCII and behind them nothing of it has another form. -/
theorem lower_keeps_ascii :
    (keepsSteps Table.lowerSpecial Table.lowerRuns 0 64 1 &&
      keepsSteps Table.lowerSpecial Table.lowerRuns 91 127 1) = true := by
  decide +kernel

/-- Within ASCII a letter has its one small form. -/
theorem lower_of_ascii (hc : c.toNat < 128) : lower c = [c.toLower] := by
  by_cases hupper : c.isUpper = true
  · have hsmall := forall_ascii (fun c => !c.isUpper || lower c == [c.toLower]) (by decide) hc
    simpa [hupper] using hsmall
  · rw [toLower_of_not_isUpper hupper]
    rw [isUpper_iff] at hupper
    have hkeeps := lower_keeps_ascii
    rw [Bool.and_eq_true] at hkeeps
    by_cases hfront : c.toNat ≤ 64
    · exact mapCase_eq_self hkeeps.1 ⟨Nat.zero_le _, hfront, Nat.mod_one _⟩
    · exact mapCase_eq_self hkeeps.2 ⟨by omega, by omega, Nat.mod_one _⟩

theorem not_isUpper_of_lower (h : lower c = [c]) : c.isUpper = false := by
  rw [Bool.eq_false_iff]
  intro hupper
  have hc := ascii_of_isAlpha (isAlpha_iff.mpr (.inl hupper))
  have hchanged := forall_ascii (fun c => !c.isUpper || c.toLower != c) (by decide) hc
  rw [lower_of_ascii hc, List.singleton_inj] at h
  simp [hupper, h] at hchanged

theorem lower_of_isLower (h : c.isLower = true) : lower c = [c] := by
  have hsmall : ¬c.isUpper = true := by
    rw [isLower_iff] at h
    rw [isUpper_iff]
    omega
  rw [lower_of_ascii (ascii_of_isAlpha (isAlpha_iff.mpr (.inr h))), toLower_of_not_isUpper hsmall]

/-- Beyond ASCII there are no letters that the case of ASCII letters is about. -/
theorem ascii_of_toLower (h : c.toLower.toNat < 128) : c.toNat < 128 := by
  by_cases hupper : c.isUpper = true
  · exact ascii_of_isAlpha (isAlpha_iff.mpr (.inl hupper))
  · rwa [toLower_of_not_isUpper hupper] at h

/-- Letters are no white space. -/
theorem not_isSpace_of_isAlpha (h : c.isAlpha = true) : isSpace c = false := by
  have hink := forall_ascii (fun c => !c.isAlpha || !isSpace c) (by decide) (ascii_of_isAlpha h)
  simpa [h] using hink

/-! ### What stands around -/

theorem startsCased_cons (c : Char) (rest : List Char) :
    startsCased (c :: rest) =
      if Table.caseIgnorable.has c then startsCased rest else Table.cased.has c := by
  by_cases hc : Table.caseIgnorable.has c = true
  · rw [if_pos hc, startsCased, List.dropWhile_cons_of_pos hc, startsCased]
  · rw [if_neg hc, startsCased, List.dropWhile_cons_of_neg hc]

/-- Past a character that is neither cased nor passed over nothing is looked at. -/
theorem startsCased_append_cons (hcased : Table.cased.has d = false)
    (hstops : Table.caseIgnorable.has d = false) (cs rest : List Char) :
    startsCased (cs ++ d :: rest) = startsCased cs := by
  induction cs with
  | nil =>
    rw [List.nil_append, startsCased_cons, hstops, hcased]
    rfl
  | cons c cs ih => rw [List.cons_append, startsCased_cons, startsCased_cons, ih]

theorem lowercaseAfter_sigma (before rest : List Char) :
    lowercaseAfter before ('Σ' :: rest) =
      (if startsCased before && !startsCased rest then 'ς' else 'σ') ::
        lowercaseAfter ('Σ' :: before) rest := by
  rw [lowercaseAfter]

theorem lowercaseAfter_cons_of_ne (hc : c ≠ 'Σ') (before rest : List Char) :
    lowercaseAfter before (c :: rest) = lower c ++ lowercaseAfter (c :: before) rest := by
  rw [lowercaseAfter]
  exact hc

/-- The two small sigmas: the one that a capital is lowered to by itself, and the final one. -/
theorem lower_sigma : lower 'Σ' = ['σ'] ∧ lower 'ς' = ['ς'] := by
  decide

theorem ne_sigma_of_lower (h : lower c = [c]) : c ≠ 'Σ' := by
  rintro rfl
  rw [lower_sigma.1] at h
  exact absurd h (by decide)

/-- The form of the first character is its own, but for a sigma that is final. -/
theorem exists_form (before : List Char) (c : Char) (rest : List Char) :
    ∃ form, lowercaseAfter before (c :: rest) = form ++ lowercaseAfter (c :: before) rest ∧
      (form = lower c ∨ c = 'Σ' ∧ form = ['ς']) := by
  by_cases hc : c = 'Σ'
  · subst hc
    refine ⟨[_], lowercaseAfter_sigma before rest, ?_⟩
    split
    · exact .inr ⟨rfl, rfl⟩
    · exact .inl lower_sigma.1.symm
  · exact ⟨lower c, lowercaseAfter_cons_of_ne hc before rest, .inl rfl⟩

/-- Of what stands in front only the first character that is not passed over matters. -/
theorem lowercaseAfter_congr {before' : List Char} (h : startsCased before = startsCased before')
    (cs : List Char) : lowercaseAfter before cs = lowercaseAfter before' cs := by
  induction cs generalizing before before' with
  | nil => rfl
  | cons c rest ih =>
    have hnext : startsCased (c :: before) = startsCased (c :: before') := by
      rw [startsCased_cons, startsCased_cons, h]
    by_cases hc : c = 'Σ'
    · subst hc
      rw [lowercaseAfter_sigma, lowercaseAfter_sigma, h, ih hnext]
    · rw [lowercaseAfter_cons_of_ne hc, lowercaseAfter_cons_of_ne hc, ih hnext]

theorem lowercaseAfter_append_cons (hlower : lower d = [d]) (hcased : Table.cased.has d = false)
    (hstops : Table.caseIgnorable.has d = false) (cs rest : List Char) :
    lowercaseAfter before (cs ++ d :: rest) = lowercaseAfter before cs ++ d :: lowercase rest := by
  induction cs generalizing before with
  | nil =>
    have hfront : startsCased (d :: before) = startsCased [] := by
      rw [startsCased_cons, hstops, hcased]
      rfl
    rw [List.nil_append, lowercaseAfter_cons_of_ne (ne_sigma_of_lower hlower), hlower,
      lowercaseAfter_congr hfront]
    rfl
  | cons c cs ih =>
    by_cases hc : c = 'Σ'
    · subst hc
      rw [List.cons_append, lowercaseAfter_sigma, lowercaseAfter_sigma, ih,
        startsCased_append_cons hcased hstops, List.cons_append]
    · rw [List.cons_append, lowercaseAfter_cons_of_ne hc, lowercaseAfter_cons_of_ne hc, ih,
        List.append_assoc]

/-- A hyphen, or any other character that takes no part in case, parts a text. -/
theorem lowercase_append_cons (hlower : lower d = [d]) (hcased : Table.cased.has d = false)
    (hstops : Table.caseIgnorable.has d = false) (cs rest : List Char) :
    lowercase (cs ++ d :: rest) = lowercase cs ++ d :: lowercase rest :=
  lowercaseAfter_append_cons hlower hcased hstops cs rest

/-! ### A text -/

/-- What is written is a final sigma, or from the form of some character. -/
theorem exists_of_mem_lowercaseAfter (h : d ∈ lowercaseAfter before cs) :
    d = 'ς' ∨ ∃ c ∈ cs, d ∈ lower c := by
  induction cs generalizing before with
  | nil => cases h
  | cons c rest ih =>
    obtain ⟨form, heq, hform⟩ := exists_form before c rest
    rw [heq, List.mem_append] at h
    rcases h with h | h
    · rcases hform with rfl | ⟨-, rfl⟩
      · exact .inr ⟨c, List.mem_cons_self, h⟩
      · exact .inl (List.mem_singleton.mp h)
    · rcases ih h with hfinal | ⟨e, he, hd⟩
      · exact .inl hfinal
      · exact .inr ⟨e, List.mem_cons_of_mem c he, hd⟩

theorem lower_of_mem_lowercase (h : d ∈ lowercase cs) : lower d = [d] := by
  rcases exists_of_mem_lowercaseAfter h with rfl | ⟨c, -, hd⟩
  · exact lower_sigma.2
  · exact lower_of_mem_lower hd

theorem mem_of_isSpace_of_mem_lowercase (hd : isSpace d = true) (h : d ∈ lowercase cs) :
    d ∈ cs := by
  rcases exists_of_mem_lowercaseAfter h with rfl | ⟨c, hc, hmem⟩
  · exact absurd hd (by decide)
  · rwa [eq_of_isSpace_of_mem_lower hd hmem]

/-- A text of characters that lower-casing leaves alone is left alone: there is no capital sigma in
it whose form would depend on its place. -/
theorem lowercase_eq_self (h : ∀ c ∈ cs, lower c = [c]) : lowercase cs = cs := by
  suffices hafter : ∀ before, lowercaseAfter before cs = cs from hafter []
  induction cs with
  | nil => exact fun before => rfl
  | cons c rest ih =>
    intro before
    rw [List.forall_mem_cons] at h
    rw [lowercaseAfter_cons_of_ne (ne_sigma_of_lower h.1), h.1, ih h.2, List.singleton_append]

theorem lowercase_of_ascii (h : ∀ c ∈ cs, c.toNat < 128) : lowercase cs = cs.map Char.toLower := by
  suffices hafter : ∀ before, lowercaseAfter before cs = cs.map Char.toLower from hafter []
  induction cs with
  | nil => exact fun before => rfl
  | cons c rest ih =>
    intro before
    rw [List.forall_mem_cons] at h
    have hc : c ≠ 'Σ' := by
      rintro rfl
      exact absurd h.1 (by decide)
    rw [lowercaseAfter_cons_of_ne hc, lower_of_ascii h.1, ih h.2, List.singleton_append,
      List.map_cons]

/-- Only from ASCII comes a text of ASCII without `k`. -/
theorem ascii_of_lowercase (h : ∀ d ∈ lowercase cs, d.toNat < 128 ∧ d ≠ 'k') :
    ∀ c ∈ cs, c.toNat < 128 := by
  suffices hafter : ∀ before, (∀ d ∈ lowercaseAfter before cs, d.toNat < 128 ∧ d ≠ 'k') →
      ∀ c ∈ cs, c.toNat < 128 from hafter [] h
  clear h
  induction cs with
  | nil => simp
  | cons c rest ih =>
    intro before h
    obtain ⟨form, heq, hform⟩ := exists_form before c rest
    rw [heq, List.forall_mem_append] at h
    rw [List.forall_mem_cons]
    refine ⟨?_, ih _ h.2⟩
    rcases hform with rfl | ⟨-, rfl⟩
    · by_contra hc
      obtain ⟨d, hd, hbeyond⟩ := exists_mem_lower_beyond (Nat.le_of_not_lt hc)
      obtain ⟨hascii, hk⟩ := h.1 d hd
      rcases hbeyond with hbeyond | rfl
      · omega
      · exact hk rfl
    · -- a final sigma is beyond ASCII
      exact absurd (h.1 'ς' (List.mem_singleton_self 'ς')).1 (by decide)

end Scaffold.Text
