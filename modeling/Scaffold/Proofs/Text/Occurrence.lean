import Mathlib.Data.List.Infix
import Scaffold.Text.Search

/-!
# Where a pattern occurs

Facts about the places of a text at which a pattern starts: inside a part of it, across the joint
of two parts, or in a text whose characters were replaced one by one. A pattern *starts nowhere in*
a part when it occurs at no place of it whatever follows, so that a search may walk over the part
without looking at the rest of the text.
-/

namespace Scaffold.Text

/-- `pattern` starts at no place of `part`, not even at one from which it would run over the end. -/
def StartsNowhereIn (pattern part : List Char) : Prop :=
  ∀ tail ∈ part.tails, tail ≠ [] → ¬ tail <+: pattern ∧ ¬ pattern <+: tail

instance (pattern part : List Char) : Decidable (StartsNowhereIn pattern part) :=
  inferInstanceAs (Decidable (∀ tail ∈ part.tails, tail ≠ [] → _))

/-! ### One part -/

theorem StartsNowhereIn.of_suffix {pattern part tail : List Char}
    (h : StartsNowhereIn pattern part) (ht : tail <:+ part) : StartsNowhereIn pattern tail := by
  intro more hmore hne
  exact h more ((List.mem_tails _ _).mpr (((List.mem_tails _ _).mp hmore).trans ht)) hne

theorem StartsNowhereIn.tail {pattern part : List Char} {c : Char}
    (h : StartsNowhereIn pattern (c :: part)) : StartsNowhereIn pattern part :=
  h.of_suffix (List.suffix_cons c part)

/-- Whatever follows the part, the pattern is no prefix of it. -/
theorem StartsNowhereIn.not_isPrefix {pattern part : List Char}
    (h : StartsNowhereIn pattern part) (hne : part ≠ []) (rest : List Char) :
    ¬ pattern <+: part ++ rest := by
  intro hp
  have hpart := h part ((List.mem_tails _ _).mpr List.suffix_rfl) hne
  rcases List.prefix_or_prefix_of_prefix hp (List.prefix_append part rest) with hin | hover
  · exact hpart.2 hin
  · exact hpart.1 hover

/-- Two texts of which one starts nowhere in the other begin no common text. -/
theorem StartsNowhereIn.not_isPrefix_both {pattern part cs : List Char}
    (h : StartsNowhereIn pattern part) (hne : part ≠ []) (hpattern : pattern <+: cs) :
    ¬ part <+: cs := by
  rintro ⟨rest, rfl⟩
  exact h.not_isPrefix hne rest hpattern

/-- A pattern starts nowhere in a part without its first character. -/
theorem startsNowhereIn_of_head_notMem {pattern part : List Char} {c : Char} (hc : c ∉ part) :
    StartsNowhereIn (c :: pattern) part := by
  intro tail ht hne
  have hsub := ((List.mem_tails _ _).mp ht).subset
  obtain ⟨d, rest, rfl⟩ := List.exists_cons_of_ne_nil hne
  have hd : d ≠ c := by
    rintro rfl
    exact hc (hsub List.mem_cons_self)
  constructor
  · exact fun hover => hd (List.cons_prefix_cons.mp hover).1
  · exact fun hin => hd (List.cons_prefix_cons.mp hin).1.symm

theorem startsNowhereIn_of_not_mem {pattern part : List Char} (hne : pattern ≠ [])
    (h : ∀ c ∈ part, c ∉ pattern) : StartsNowhereIn pattern part := by
  obtain ⟨c, rest, rfl⟩ := List.exists_cons_of_ne_nil hne
  exact startsNowhereIn_of_head_notMem fun hc => h c hc List.mem_cons_self

/-- A pattern that occurs in a text occurs behind the part it starts nowhere in. -/
theorem infix_of_infix_append {pattern part rest : List Char} (h : StartsNowhereIn pattern part)
    (hin : pattern <:+: part ++ rest) : pattern <:+: rest := by
  induction part with
  | nil => exact hin
  | cons c part ih =>
    rw [List.cons_append, List.infix_cons_iff] at hin
    rcases hin with hp | hin
    · exact absurd hp (h.not_isPrefix (List.cons_ne_nil c part) rest)
    · exact ih h.tail hin

/-! ### Two parts -/

theorem StartsNowhereIn.append {pattern part rest : List Char} (h : StartsNowhereIn pattern part)
    (hrest : StartsNowhereIn pattern rest) : StartsNowhereIn pattern (part ++ rest) := by
  induction part with
  | nil => exact hrest
  | cons c part ih =>
    intro tail ht hne
    rw [List.cons_append, List.tails_cons, List.mem_cons] at ht
    rcases ht with rfl | ht
    · have hpart := h (c :: part) ((List.mem_tails _ _).mpr List.suffix_rfl) (List.cons_ne_nil c part)
      refine ⟨fun hover => hpart.1 ((List.prefix_append (c :: part) rest).trans hover), ?_⟩
      exact h.not_isPrefix (List.cons_ne_nil c part) rest
    · exact ih h.tail tail ht hne

/-- The mark stands in the text behind `front`, and nowhere before. -/
def FirstAt (mark front cs : List Char) : Prop :=
  front ++ mark <+: cs ∧ ∀ other, other ++ mark <+: cs → front <+: other

/-- A mark that starts nowhere in a part is the first of its kind behind it. -/
theorem StartsNowhereIn.firstAt {mark front : List Char} (h : StartsNowhereIn mark front)
    (rest : List Char) : FirstAt mark front (front ++ mark ++ rest) := by
  refine ⟨List.prefix_append _ rest, fun other hother => ?_⟩
  rw [List.append_assoc] at hother
  have hboth := (List.prefix_append other mark).trans hother
  rcases List.prefix_or_prefix_of_prefix (List.prefix_append front (mark ++ rest)) hboth with
    hfront | ⟨tail, rfl⟩
  · exact hfront
  · rcases eq_or_ne tail [] with rfl | hne
    · rw [List.append_nil]
    · -- the mark would start within the part
      rw [List.append_assoc, List.prefix_append_right_inj] at hother
      exact absurd hother ((h.of_suffix (List.suffix_append other tail)).not_isPrefix hne _)

/-- A prefix of two joined parts ends in the first or reaches into the second. -/
theorem ends_or_runs_over {pattern part rest : List Char} (h : pattern <+: part ++ rest) :
    pattern <+: part ∨ ∃ more, more ≠ [] ∧ pattern = part ++ more ∧ more <+: rest := by
  rcases List.prefix_or_prefix_of_prefix h (List.prefix_append part rest) with hin | ⟨more, rfl⟩
  · exact .inl hin
  · rcases eq_or_ne more [] with rfl | hne
    · exact .inl (by simp)
    · exact .inr ⟨more, hne, rfl, (List.prefix_append_right_inj part).mp h⟩

/-- No occurrence lies across a character that the pattern does not contain. -/
theorem infix_append_cons {pattern part rest : List Char} {c : Char} (hne : pattern ≠ [])
    (hc : c ∉ pattern) (hin : pattern <:+: part ++ c :: rest) :
    pattern <:+: part ∨ pattern <:+: rest := by
  rcases List.infix_append_iff.mp hin with hpart | hrest | ⟨front, back, rfl, hfront, hback⟩
  · exact .inl hpart
  · have hsep : StartsNowhereIn pattern [c] := startsNowhereIn_of_not_mem hne (by simpa using hc)
    exact .inr (infix_of_infix_append hsep hrest)
  · rcases back with - | ⟨d, back⟩
    · exact .inl (by simpa using hfront.isInfix)
    · have hd : d = c := by
        rw [List.cons_prefix_cons] at hback
        exact hback.1
      exact absurd (by simp [hd]) hc

/-! ### Replacing characters -/

/-- A prefix of a text whose characters were replaced one by one is a prefix of the text, if no
replacement starts with a character of it. -/
theorem prefix_of_prefix_flatMap {pattern : List Char} {f : Char → List Char}
    (hf : ∀ c, f c = [c] ∨ ∃ d more, f c = d :: more ∧ d ∉ pattern) {cs : List Char}
    (h : pattern <+: cs.flatMap f) : pattern <+: cs := by
  induction cs generalizing pattern with
  | nil => simpa using h
  | cons c rest ih =>
    rcases pattern with - | ⟨p, pattern⟩
    · exact List.nil_prefix
    rcases hf c with heq | ⟨d, more, heq, hd⟩
    · rw [List.flatMap_cons, heq, List.singleton_append, List.cons_prefix_cons] at h
      refine List.cons_prefix_cons.mpr ⟨h.1, ih (fun b => ?_) h.2⟩
      rcases hf b with hb | ⟨d, more, hb, hd⟩
      · exact .inl hb
      · exact .inr ⟨d, more, hb, fun hmem => hd (List.mem_cons_of_mem p hmem)⟩
    · rw [List.flatMap_cons, heq, List.cons_append, List.cons_prefix_cons] at h
      exact absurd (h.1 ▸ List.mem_cons_self) hd

/-- Replacing characters by texts without a character of the pattern creates no occurrence. -/
theorem infix_of_infix_flatMap {pattern : List Char} (hne : pattern ≠ []) {f : Char → List Char}
    (hf : ∀ c, f c = [c] ∨ f c ≠ [] ∧ ∀ d ∈ f c, d ∉ pattern) {cs : List Char}
    (h : pattern <:+: cs.flatMap f) : pattern <:+: cs := by
  have hhead : ∀ c, f c = [c] ∨ ∃ d more, f c = d :: more ∧ d ∉ pattern := by
    intro c
    rcases hf c with heq | ⟨hnil, hmem⟩
    · exact .inl heq
    · obtain ⟨d, more, heq⟩ := List.exists_cons_of_ne_nil hnil
      exact .inr ⟨d, more, heq, hmem d (heq ▸ List.mem_cons_self)⟩
  induction cs with
  | nil => simpa using h
  | cons c rest ih =>
    rcases hf c with heq | ⟨-, hmem⟩
    · have h' := h
      rw [List.flatMap_cons, heq, List.singleton_append, List.infix_cons_iff] at h'
      rcases h' with hp | hin
      · refine List.IsPrefix.isInfix (prefix_of_prefix_flatMap hhead ?_)
        rwa [List.flatMap_cons, heq, List.singleton_append]
      · exact (ih hin).trans (List.suffix_cons c rest).isInfix
    · -- nothing of the replacement is in the pattern, so the occurrence is behind it
      rw [List.flatMap_cons] at h
      have hin := ih (infix_of_infix_append (startsNowhereIn_of_not_mem hne hmem) h)
      exact hin.trans (List.suffix_cons c rest).isInfix

/-! ### Replacing a pattern -/

section Replacing

variable {pattern replacement : List Char}

theorem replaceFrom_eq (skip : Nat) (cs : List Char) :
    replaceFrom pattern replacement skip cs = replaceAll pattern replacement (cs.drop skip) := by
  induction cs generalizing skip with
  | nil => simp [replaceAll, replaceFrom]
  | cons c rest ih =>
    cases skip with
    | zero => rfl
    | succ skip => simpa [replaceFrom] using ih skip

theorem replaceAll_cons {c : Char} {rest : List Char} (h : ¬ pattern <+: c :: rest) :
    replaceAll pattern replacement (c :: rest) = c :: replaceAll pattern replacement rest := by
  have hfalse : pattern.isPrefixOf (c :: rest) = false := by
    simpa [← List.isPrefixOf_iff_prefix] using h
  rw [replaceAll, replaceFrom, hfalse]
  rfl

theorem replaceAll_pattern_append (hne : pattern ≠ []) (rest : List Char) :
    replaceAll pattern replacement (pattern ++ rest) =
      replacement ++ replaceAll pattern replacement rest := by
  obtain ⟨c, more, rfl⟩ := List.exists_cons_of_ne_nil hne
  have htrue : (c :: more).isPrefixOf (c :: (more ++ rest)) = true :=
    List.isPrefixOf_iff_prefix.mpr (List.prefix_append (c :: more) rest)
  rw [List.cons_append, replaceAll, replaceFrom, if_pos htrue, replaceFrom_eq]
  simp

theorem replaceAll_eq_self {cs : List Char} (h : ¬ pattern <:+: cs) :
    replaceAll pattern replacement cs = cs := by
  induction cs with
  | nil => rfl
  | cons c rest ih =>
    rw [replaceAll_cons fun hp => h hp.isInfix,
      ih fun hin => h (hin.trans (List.suffix_cons c rest).isInfix)]

/-- A pattern of one character is replaced character by character. -/
theorem replaceAll_singleton (a : Char) (cs : List Char) :
    replaceAll [a] replacement cs = cs.flatMap fun c => if c = a then replacement else [c] := by
  induction cs with
  | nil => rfl
  | cons c rest ih =>
    rw [List.flatMap_cons, ← ih]
    by_cases hc : c = a
    · subst hc
      rw [if_pos rfl, ← replaceAll_pattern_append (List.cons_ne_nil c [])]
      rfl
    · rw [if_neg hc, replaceAll_cons, List.singleton_append]
      simpa using fun heq => hc heq.symm

end Replacing

end Scaffold.Text
