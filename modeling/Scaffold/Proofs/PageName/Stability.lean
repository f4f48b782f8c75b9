import Scaffold.Proofs.PageName.Segment
import Scaffold.Proofs.Text.LowerCase

/-!
# Segments in normal form

A segment has no white space, no underscore and no capital letter. So there is nothing left in it to
be split, collapsed or lowered, and it is its own segment. A hump parts a name: what stands up to it
and what stands behind it have their segments each on its own, and a hyphen joins the two. The same
is then said of the next hump, in the name behind the first.
-/

namespace Scaffold.PageName

open Text

variable {a b c d : Char} {cs : List Char}

/-! ### Nothing left to do -/

theorem splitHumps_eq_self (h : ∀ c ∈ cs, c.isUpper = false) : splitHumps cs = cs := by
  fun_induction splitHumps cs with
  | case1 a b rest hhump ih =>
    have hb : b.isUpper = false := h b (by simp)
    simp [hb] at hhump
  | case2 a b rest hhump ih => rw [ih fun c hc => h c (List.mem_cons_of_mem a hc)]
  | case3 cs hcs => rfl

theorem collapseRuns_eq_self (h : ∀ c ∈ cs, isBlankOrUnderscore c = false) (inRun : Bool) :
    collapseRuns inRun cs = cs := by
  induction cs generalizing inRun with
  | nil => rfl
  | cons c rest ih =>
    rw [List.forall_mem_cons] at h
    rw [collapseRuns, h.1, if_neg Bool.false_ne_true, ih h.2]

theorem not_isBlankOrUnderscore_of_mem_collapseRuns {inRun : Bool}
    (h : d ∈ collapseRuns inRun cs) : isBlankOrUnderscore d = false := by
  induction cs generalizing inRun with
  | nil => cases h
  | cons c rest ih =>
    rw [collapseRuns] at h
    split at h
    · -- the run leaves a hyphen at most
      cases inRun with
      | true => exact ih h
      | false =>
        rcases List.mem_cons.mp h with rfl | h
        · decide
        · exact ih h
    · next hc =>
      rcases List.mem_cons.mp h with rfl | h
      · simpa using hc
      · exact ih h

theorem not_isSpace_of_mem_segment {name : String} (h : d ∈ (segment name).toList) :
    isSpace d = false := by
  rw [segment, String.toList_ofList] at h
  rw [Bool.eq_false_iff]
  intro hd
  have hink := not_isBlankOrUnderscore_of_mem_collapseRuns (mem_of_isSpace_of_mem_lowercase hd h)
  simp [isBlankOrUnderscore, hd] at hink

theorem underscore_notMem_segment (name : String) : '_' ∉ (segment name).toList := by
  intro h
  rw [segment, String.toList_ofList, mem_lowercase_iff (by decide)] at h
  exact absurd (not_isBlankOrUnderscore_of_mem_collapseRuns h) (by decide)

theorem lower_of_mem_segment {name : String} (h : d ∈ (segment name).toList) : lower d = [d] := by
  rw [segment, String.toList_ofList] at h
  exact lower_of_mem_lowercase h

theorem segment_segment (name : String) : segment (segment name) = segment name := by
  have hsplit : splitHumps (segment name).toList = (segment name).toList := by
    apply splitHumps_eq_self
    intro c hc
    exact not_isUpper_of_lower (lower_of_mem_segment hc)
  have hcollapse : collapseRuns false (segment name).toList = (segment name).toList := by
    apply collapseRuns_eq_self
    intro c hc
    have hunderscore : c ≠ '_' := fun heq => underscore_notMem_segment name (heq ▸ hc)
    simp [isBlankOrUnderscore, not_isSpace_of_mem_segment hc, hunderscore]
  have hlower : lowercase (segment name).toList = (segment name).toList :=
    lowercase_eq_self fun c hc => lower_of_mem_segment hc
  rw [← String.toList_inj, segment, String.toList_ofList, hsplit, hcollapse, hlower]

/-! ### Humps -/

theorem splitHumps_cons_cons (c d : Char) (rest : List Char) :
    splitHumps (c :: d :: rest) =
      if c.isLower && d.isUpper then c :: '-' :: splitHumps (d :: rest)
      else c :: splitHumps (d :: rest) := by
  rw [splitHumps]

/-- What stands in front of a hump is split as if the name ended there. -/
theorem splitHumps_hump (ha : a.isLower = true) (hb : b.isUpper = true) (front back : List Char) :
    splitHumps (front ++ a :: b :: back) =
      splitHumps (front ++ [a]) ++ '-' :: splitHumps (b :: back) := by
  induction front with
  | nil =>
    rw [List.nil_append, splitHumps_cons_cons, ha, hb]
    rfl
  | cons c front ih =>
    -- the next character is the same with the name going on or not
    obtain ⟨d, rest, more, hwhole, hfront⟩ : ∃ d rest more,
        front ++ a :: b :: back = d :: rest ∧ front ++ [a] = d :: more := by
      cases front with
      | nil => exact ⟨a, _, _, rfl, rfl⟩
      | cons d front => exact ⟨d, _, _, rfl, rfl⟩
    rw [hwhole, hfront] at ih
    rw [List.cons_append, List.cons_append, hwhole, hfront, splitHumps_cons_cons,
      splitHumps_cons_cons, ih]
    split <;> rfl

theorem exists_splitHumps_concat (front : List Char) (a : Char) :
    ∃ before, splitHumps (front ++ [a]) = before ++ [a] := by
  induction front with
  | nil => exact ⟨[], rfl⟩
  | cons c front ih =>
    obtain ⟨before, hbefore⟩ := ih
    obtain ⟨d, rest, hfront⟩ : ∃ d rest, front ++ [a] = d :: rest :=
      List.exists_cons_of_ne_nil (by simp)
    rw [hfront] at hbefore
    rw [List.cons_append, hfront, splitHumps_cons_cons, hbefore]
    split
    · exact ⟨c :: '-' :: before, rfl⟩
    · exact ⟨c :: before, rfl⟩

theorem exists_splitHumps_cons (b : Char) (back : List Char) :
    ∃ after, splitHumps (b :: back) = b :: after := by
  cases back with
  | nil => exact ⟨[], rfl⟩
  | cons c back =>
    rw [splitHumps_cons_cons]
    split
    · exact ⟨_, rfl⟩
    · exact ⟨_, rfl⟩

/-- No run goes on past a character that is in none. -/
theorem collapseRuns_append_cons (hd : isBlankOrUnderscore d = false) (inRun : Bool)
    (front back : List Char) :
    collapseRuns inRun (front ++ d :: back) =
      collapseRuns inRun front ++ d :: collapseRuns false back := by
  induction front generalizing inRun with
  | nil =>
    rw [List.nil_append, collapseRuns.eq_2, hd]
    rfl
  | cons c front ih =>
    rw [List.cons_append, collapseRuns, collapseRuns, ih, ih]
    split
    · cases inRun <;> rfl
    · rfl

theorem exists_lowercaseAfter_concat (ha : lower a = [a]) (before front : List Char) :
    ∃ start, lowercaseAfter before (front ++ [a]) = start ++ [a] := by
  induction front generalizing before with
  | nil =>
    rw [List.nil_append, lowercaseAfter_cons_of_ne (ne_sigma_of_lower ha), ha]
    exact ⟨[], rfl⟩
  | cons c front ih =>
    obtain ⟨form, heq, -⟩ := exists_form before c (front ++ [a])
    obtain ⟨start, hstart⟩ := ih (c :: before)
    rw [List.cons_append, heq, hstart]
    exact ⟨form ++ start, (List.append_assoc ..).symm⟩

/-- A hyphen takes no part in case, so what stands on its two sides is lowered apart. -/
theorem lowercase_append_hyphen (front back : List Char) :
    lowercase (front ++ '-' :: back) = lowercase front ++ '-' :: lowercase back := by
  have hlower : lower '-' = ['-'] := lower_of_ascii (by decide)
  have hparts : Table.cased.has '-' = false ∧ Table.caseIgnorable.has '-' = false := by
    decide +kernel
  exact lowercase_append_cons hlower hparts.1 hparts.2 front back

/-! ### The segment of a name with a hump -/

theorem segment_hump (ha : a.isLower = true) (hb : b.isUpper = true) (front back : List Char) :
    (segment (String.ofList (front ++ a :: b :: back))).toList =
      (segment (String.ofList (front ++ [a]))).toList ++
        '-' :: (segment (String.ofList (b :: back))).toList := by
  have hhyphen : isBlankOrUnderscore '-' = false := by decide
  simp only [segment, String.toList_ofList, splitHumps_hump ha hb,
    collapseRuns_append_cons hhyphen]
  exact lowercase_append_hyphen _ _

theorem not_isBlankOrUnderscore_of_isAlpha (h : c.isAlpha = true) :
    isBlankOrUnderscore c = false := by
  have hunderscore : c ≠ '_' := by
    rintro rfl
    exact absurd h (by decide)
  simp [isBlankOrUnderscore, not_isSpace_of_isAlpha h, hunderscore]

theorem exists_segment_concat (ha : a.isLower = true) (front : List Char) :
    ∃ before, (segment (String.ofList (front ++ [a]))).toList = before ++ [a] := by
  obtain ⟨before, hbefore⟩ := exists_splitHumps_concat front a
  have hink := not_isBlankOrUnderscore_of_isAlpha (isAlpha_iff.mpr (.inr ha))
  rw [segment, String.toList_ofList, String.toList_ofList, hbefore, collapseRuns_append_cons hink]
  exact exists_lowercaseAfter_concat (lower_of_isLower ha) [] _

theorem exists_segment_cons (hb : b.isUpper = true) (back : List Char) :
    ∃ after, (segment (String.ofList (b :: back))).toList = b.toLower :: after := by
  obtain ⟨after, hafter⟩ := exists_splitHumps_cons b back
  have hletter := isAlpha_iff.mpr (.inl hb)
  have hink := not_isBlankOrUnderscore_of_isAlpha hletter
  have hsigma : b ≠ 'Σ' := by
    rintro rfl
    exact absurd hb (by decide)
  refine ⟨lowercaseAfter [b] (collapseRuns false after), ?_⟩
  have hcollapse : collapseRuns false (b :: after) = b :: collapseRuns false after :=
    collapseRuns_append_cons hink false [] after
  rw [segment, String.toList_ofList, String.toList_ofList, hafter, hcollapse, lowercase,
    lowercaseAfter_cons_of_ne hsigma, lower_of_ascii (ascii_of_isAlpha hletter),
    List.singleton_append]

/-- A segment has no white space, no underscore and nothing that lower-casing would change, it is
its own segment, and a hyphen stands between the characters of every hump of the name. -/
theorem segment_normal (name : String) :
    (∀ c ∈ (segment name).toList, isSpace c = false ∧ c ≠ '_' ∧ lower c = [c]) ∧
    lowercase (segment name).toList = (segment name).toList ∧
    segment (segment name) = segment name ∧
    ∀ front a b back, name.toList = front ++ a :: b :: back → a.isLower = true → b.isUpper = true →
      ∃ before after,
        (segment (String.ofList (front ++ [a]))).toList = before ++ [a] ∧
        (segment (String.ofList (b :: back))).toList = b.toLower :: after ∧
        (segment name).toList = before ++ a :: '-' :: b.toLower :: after := by
  refine ⟨?_, lowercase_eq_self fun _ => lower_of_mem_segment, segment_segment name, ?_⟩
  · intro c hc
    refine ⟨not_isSpace_of_mem_segment hc, ?_, lower_of_mem_segment hc⟩
    rintro rfl
    exact underscore_notMem_segment name hc
  · intro front a b back hname ha hb
    obtain ⟨before, hbefore⟩ := exists_segment_concat ha front
    obtain ⟨after, hafter⟩ := exists_segment_cons hb back
    have hwhole := segment_hump ha hb front back
    rw [← hname, String.ofList_toList, hbefore, hafter] at hwhole
    exact ⟨before, after, hbefore, hafter, by simpa using hwhole⟩

/-- Two humps with nothing between them, and letters behind whose form depends on their place. -/
theorem segment_normal_humps :
    let name := "aBcDΣ"
    (∃ before after,
      (segment "a").toList = before ++ ['a'] ∧ (segment "BcDΣ").toList = 'b' :: after ∧
        (segment name).toList = before ++ 'a' :: '-' :: 'b' :: after) ∧
    (∃ before after,
      (segment "aBc").toList = before ++ ['c'] ∧ (segment "DΣ").toList = 'd' :: after ∧
        (segment name).toList = before ++ 'c' :: '-' :: 'd' :: after) ∧
    segment name = "a-bc-dς" := by
  intro name
  obtain ⟨-, -, -, hhumps⟩ := segment_normal name
  have hname : name.toList = ['a', 'B', 'c', 'D', 'Σ'] := by decide
  refine ⟨?_, ?_, by decide +kernel⟩
  · exact hhumps [] 'a' 'B' ['c', 'D', 'Σ'] hname rfl rfl
  · exact hhumps ['a', 'B'] 'c' 'D' ['Σ'] hname rfl rfl

end Scaffold.PageName
