import Mathlib.Data.List.Chain
import Scaffold.Proofs.Generator.Spelling
import Scaffold.Proofs.PageName.Blanks
import Scaffold.Proofs.Text.Ascii

/-!
# Names that are spelled like an archetype

An archetype is found by any spelling of its name. A page that took the spelling itself for its name
would have the same segment, as long as no capital follows a small letter; and the same identifier,
as long as no capital stands within a word.
-/

namespace Scaffold

open PageName Text

namespace PageName

variable {c : Char} {cs : List Char}

/-! ### Letters and digits -/

/-- What holds of all letters and digits of ASCII. -/
structure IsLetterOrDigit (c : Char) : Prop where
  joins : isSeparator c = false
  keeps : isIdentifierChar c = true
  upper : upper c = [c.toUpper]
  upper_keeps : isIdentifierChar c.toUpper = true
  toLower_toUpper : c.toLower.toUpper = c.toUpper
  toLower : c.toLower.isAlphanum = true

theorem isLetterOrDigit (h : c.isAlphanum = true) : IsLetterOrDigit c := by
  have hspec := forall_ascii (fun c => !c.isAlphanum || (c.toUpper.isAlphanum &&
    c.toLower.toUpper == c.toUpper && c.toLower.isAlphanum)) (by decide) (ascii_of_isAlphanum h)
  simp only [h, Bool.not_true, Bool.false_or, Bool.and_eq_true, beq_iff_eq] at hspec
  obtain ⟨⟨hupper, hback⟩, hlower⟩ := hspec
  have hkeeps : ∀ d : Char, d.isAlphanum = true → isIdentifierChar d = true := by
    intro d hd
    rw [isIdentifierChar, isAlphanumeric_of_isAlphanum hd, Bool.true_or, Bool.true_or]
  exact ⟨isSeparator_of_isAlphanumeric (isAlphanumeric_of_isAlphanum h), hkeeps c h,
    upper_of_ascii (ascii_of_isAlphanum h), hkeeps _ hupper, hback, hlower⟩

theorem eq_toLower_iff (h : c.isAlphanum = true) : c = c.toLower ↔ c.isUpper = false := by
  constructor
  · intro heq
    apply not_isUpper_of_lower
    rw [lower_of_ascii (ascii_of_isAlphanum h), ← heq]
  · intro hsmall
    exact (toLower_of_not_isUpper (by simp [hsmall])).symm

/-! ### Capitals -/

/-- A capital stands behind a separator. -/
def Leads (before c : Char) : Prop := c.isUpper = true → isSeparator before = true

instance (before c : Char) : Decidable (Leads before c) :=
  inferInstanceAs (Decidable (_ → _))

/-- Capitals stand at the start of words only. -/
def CapitalsLead (cs : List Char) : Prop := cs.IsChain Leads

instance (cs : List Char) : Decidable (CapitalsLead cs) :=
  inferInstanceAs (Decidable (cs.IsChain Leads))

/-! ### Humps -/

/-- No capital stands right behind a small letter. -/
def HumpFree (cs : List Char) : Prop :=
  cs.IsChain fun before c => ¬(before.isLower = true ∧ c.isUpper = true)

instance (cs : List Char) : Decidable (HumpFree cs) := inferInstanceAs (Decidable (cs.IsChain _))

/-- No two characters of a run stand next to one another. -/
def RunsApart (cs : List Char) : Prop :=
  cs.IsChain fun before c => isBlankOrUnderscore before = true → isBlankOrUnderscore c = false

theorem sublist_splitHumps (cs : List Char) : cs.Sublist (splitHumps cs) := by
  fun_induction splitHumps cs with
  | case1 a b rest hhump ih => exact (ih.cons '-').cons_cons a
  | case2 a b rest hhump ih => exact ih.cons_cons a
  | case3 cs hcs => exact .refl cs

theorem splitHumps_eq_self_iff : splitHumps cs = cs ↔ HumpFree cs := by
  fun_induction splitHumps cs with
  | case1 a b rest hhump ih =>
    rw [Bool.and_eq_true] at hhump
    refine iff_of_false (fun h => ?_) fun h => ?_
    · -- a hyphen is no capital
      have hb : '-' = b := (List.cons.inj (List.cons.inj h).2).1
      rw [← hb] at hhump
      exact absurd hhump.2 (by decide)
    · exact (List.isChain_cons_cons.mp h).1 hhump
  | case2 a b rest hhump ih =>
    rw [Bool.and_eq_true] at hhump
    rw [HumpFree, List.isChain_cons_cons, and_iff_right hhump, List.cons.injEq, and_iff_right rfl]
    exact ih
  | case3 cs hcs =>
    refine iff_of_true rfl ?_
    rcases cs with - | ⟨a, - | ⟨b, rest⟩⟩
    · exact .nil
    · exact .singleton a
    · exact absurd rfl (hcs a b rest)

theorem runsApart_splitHumps (h : RunsApart cs) : RunsApart (splitHumps cs) := by
  have hhyphen : isBlankOrUnderscore '-' = false := by decide
  fun_induction splitHumps cs with
  | case1 a b rest hhump ih =>
    rw [RunsApart, List.isChain_cons_cons] at h
    rw [RunsApart, List.isChain_cons_cons, List.isChain_cons]
    refine ⟨fun _ => hhyphen, ?_, ih h.2⟩
    intro c _ hblank
    rw [hhyphen] at hblank
    cases hblank
  | case2 a b rest hhump ih =>
    rw [RunsApart, List.isChain_cons_cons] at h
    rw [RunsApart, List.isChain_cons]
    refine ⟨?_, ih h.2⟩
    intro c hc
    rw [head?_splitHumps, List.head?_cons, Option.mem_some_iff] at hc
    exact hc ▸ h.1
  | case3 cs hcs => exact h

/-- The hyphen of a run of one character, and any other character. -/
def hyphenate (c : Char) : Char := if isBlankOrUnderscore c then '-' else c

theorem hyphenate_of_isAlphanum (h : c.isAlphanum = true) : hyphenate c = c := by
  refine if_neg ?_
  simp [not_isBlankOrUnderscore_of_joins (isLetterOrDigit h).joins]

theorem collapseRuns_of_runsApart (h : RunsApart cs) : collapseRuns false cs = cs.map hyphenate := by
  induction cs with
  | nil => rfl
  | cons c rest ih =>
    rw [RunsApart, List.isChain_cons] at h
    rw [collapseRuns, List.map_cons, hyphenate, ← ih h.2]
    split
    · next hc =>
      have hstops : collapseRuns true rest = collapseRuns false rest := by
        cases rest with
        | nil => rfl
        | cons d rest =>
          have hd : ¬isBlankOrUnderscore d = true := by simp [h.1 d rfl hc]
          rw [collapseRuns, collapseRuns, if_neg hd, if_neg hd]
      rw [if_neg Bool.false_ne_true, hstops]
    · rfl

end PageName

namespace Archetype

variable {a : Archetype} {c d e : Char} {cs spelling : List Char}

/-! ### What stands for a name -/

/-- What stands for a character of a name: a joint for an underscore, and a letter or a digit of
ASCII in either case. -/
inductive StandsFor (expected given : Char) : Prop where
  | joint : expected = '_' → given ∈ ['_', '-', ' '] → StandsFor expected given
  | letter : given.isAlphanum = true → given.toLower = expected → StandsFor expected given

theorem joint_spec (hc : c ∈ ['_', '-', ' ']) :
    c.toNat < 128 ∧ isSeparator c = true ∧ c.isUpper = false ∧ (hyphenate c).toLower = '-' := by
  simp only [List.mem_cons, List.not_mem_nil, or_false] at hc
  rcases hc with rfl | rfl | rfl <;> decide

theorem name_spec (a : Archetype) :
    ∀ e ∈ a.name.toList, e = '_' ∨ e.toLower = e ∧ e.isAlphanum = true := by
  have hall : (a.name.toList.all fun e => e = '_' ∨ e.toLower = e ∧ e.isAlphanum = true) =
      true := by
    cases a <;> decide
  intro e he
  exact of_decide_eq_true (List.all_eq_true.mp hall e he)

theorem accepts_iff_standsFor (he : e ∈ a.name.toList) : Accepts e c ↔ StandsFor e c := by
  rcases name_spec a e he with rfl | ⟨hsmall, hletter⟩
  · rw [Accepts, if_pos rfl]
    constructor
    · exact .joint rfl
    · intro h
      cases h with
      | joint _ hc => exact hc
      | letter _ hc =>
        rw [toLower_eq_iff (by decide)] at hc
        simp [hc]
  · have hne : e ≠ '_' := by
      rintro rfl
      exact absurd hletter (by decide)
    rw [Accepts, if_neg hne, SameLetter, hsmall]
    constructor
    · intro h
      refine .letter ?_ h.symm
      have hc : c.toNat < 128 := ascii_of_toLower (h ▸ ascii_of_isAlphanum hletter)
      have hspec := forall_ascii (fun c => !c.toLower.isAlphanum || c.isAlphanum) (by decide) hc
      simpa [← h, hletter] using hspec
    · intro h
      cases h with
      | joint heq _ => exact absurd heq hne
      | letter _ hc => exact hc.symm

theorem isSpelling_iff : a.IsSpelling cs ↔ List.Forall₂ StandsFor a.name.toList cs :=
  forall₂_congr fun _ he _ => accepts_iff_standsFor he

/-! ### Identifiers -/

/-- Letter by letter: at the start of a word the letter is capitalised, whatever its case, and
within a word it stands as it is. -/
theorem compactFrom_eq_iff (h : List.Forall₂ StandsFor spelling cs) (before : Char) :
    compactFrom (isSeparator before) cs = compactFrom (isSeparator before) spelling ↔
      (before :: cs).IsChain Leads := by
  induction h generalizing before with
  | nil => simp
  | @cons e c spelling rest hec _ ih =>
    rw [List.isChain_cons_cons, ← ih c, compactFrom, compactFrom]
    cases hec with
    | joint he hc =>
      obtain ⟨-, hseparator, hsmall, -⟩ := joint_spec hc
      have hunderscore : isSeparator e = true := by
        rw [he]
        decide
      have hleads : Leads before c := by simp [Leads, hsmall]
      rw [if_pos hseparator, if_pos hunderscore, hseparator, and_iff_right hleads]
    | letter hc he =>
      subst he
      have hgiven := isLetterOrDigit hc
      have hmeant := isLetterOrDigit hgiven.toLower
      have hgiven' : ¬isSeparator c = true := by simp [hgiven.joins]
      have hmeant' : ¬isSeparator c.toLower = true := by simp [hmeant.joins]
      rw [if_neg hgiven', if_neg hmeant', hgiven.joins]
      -- a first letter is capitalised in both, any other one has to be the same
      cases hbefore : isSeparator before with
      | true =>
        have hleads : Leads before c := fun _ => hbefore
        rw [if_pos rfl, if_pos rfl, hgiven.upper, hmeant.upper, hgiven.toLower_toUpper,
          List.append_cancel_left_eq, and_iff_right hleads]
      | false =>
        have hleads : Leads before c ↔ c.isUpper = false := by simp [Leads, hbefore]
        rw [if_neg Bool.false_ne_true, if_neg Bool.false_ne_true, hleads, List.singleton_append,
          List.singleton_append, List.cons.injEq, eq_toLower_iff hc]

theorem isIdentifierChar_of_mem_compactFrom (h : List.Forall₂ StandsFor spelling cs)
    {begins : Bool} (hd : d ∈ compactFrom begins cs) : isIdentifierChar d = true := by
  induction h generalizing begins with
  | nil => cases hd
  | @cons e c spelling rest hec _ ih =>
    rw [compactFrom] at hd
    cases hec with
    | joint _ hc =>
      rw [if_pos (joint_spec hc).2.1] at hd
      exact ih hd
    | letter hc _ =>
      have hspec := isLetterOrDigit hc
      rw [if_neg (by simp [hspec.joins]), List.mem_append] at hd
      rcases hd with hd | hd
      · cases begins with
        | true =>
          rw [if_pos rfl, hspec.upper, List.mem_singleton] at hd
          exact hd ▸ hspec.upper_keeps
        | false =>
          rw [if_neg Bool.false_ne_true, List.mem_singleton] at hd
          exact hd ▸ hspec.keeps
      · exact ih hd

theorem exists_name_eq_cons (a : Archetype) :
    ∃ e rest, a.name.toList = e :: rest ∧ e.isLower = true := by
  have hhead : (a.name.toList.head?.any Char.isLower) = true := by cases a <;> decide
  obtain ⟨e, he, hlower⟩ := (Option.any_eq_true _ _).mp hhead
  obtain ⟨rest, hrest⟩ := List.head?_eq_some_iff.mp he
  exact ⟨e, rest, hrest, hlower⟩

/-- A spelling starts with a letter. -/
theorem exists_cons_of_isSpelling (h : a.IsSpelling cs) :
    ∃ c rest, cs = c :: rest ∧ c.isAlphanum = true ∧ isAlphabetic c.toUpper = true := by
  have hforall := isSpelling_iff.mp h
  obtain ⟨e, spelling, hname, he⟩ := a.exists_name_eq_cons
  rw [hname] at hforall
  obtain ⟨c, rest, hec, -, rfl⟩ := List.forall₂_cons_left_iff.mp hforall
  refine ⟨c, rest, rfl, ?_⟩
  cases hec with
  | joint heq _ =>
    rw [heq] at he
    exact absurd he (by decide)
  | letter hc heq =>
    have hspec := forall_ascii (fun c => !c.toLower.isLower || c.toUpper.isAlpha) (by decide)
      (ascii_of_isAlphanum hc)
    rw [heq, he] at hspec
    exact ⟨hc, isAlphabetic_of_isAlpha hspec⟩

/-- The identifier of a spelling has all its letters and digits. -/
theorem toList_identifier_of_isSpelling (h : a.IsSpelling cs) :
    (identifier (String.ofList cs)).toList = compactFrom true cs := by
  have hkept : kept true cs = compactFrom true cs :=
    List.filter_eq_self.mpr fun _ => isIdentifierChar_of_mem_compactFrom (isSpelling_iff.mp h)
  have hletter : (compactFrom true cs).head?.any isAlphabetic = true := by
    obtain ⟨c, rest, rfl, hc, halphabetic⟩ := exists_cons_of_isSpelling h
    have hspec := isLetterOrDigit hc
    simp [hspec.joins, hspec.upper, halphabetic]
  rw [toList_identifier, String.toList_ofList, hkept, if_pos hletter]

theorem isSpelling_self (a : Archetype) : a.IsSpelling a.name.toList := by
  have htrim : trim a.name.toList = a.name.toList := by cases a <;> decide
  have hself := a.isSpelling_name
  rwa [htrim] at hself

theorem identifier_eq_iff (h : a.IsSpelling cs) :
    identifier (String.ofList cs) = identifier a.name ↔ CapitalsLead cs := by
  have hname := toList_identifier_of_isSpelling a.isSpelling_self
  rw [String.ofList_toList] at hname
  have hstart : isSeparator '_' = true := by decide
  have hcompact := compactFrom_eq_iff (isSpelling_iff.mp h) '_'
  rw [hstart] at hcompact
  rw [← String.toList_inj, toList_identifier_of_isSpelling h, hname, hcompact]
  obtain ⟨c, rest, rfl, -⟩ := exists_cons_of_isSpelling h
  have hleads : Leads '_' c := fun _ => hstart
  rw [List.isChain_cons_cons, and_iff_right hleads]
  rfl

/-! ### Segments -/

theorem StandsFor.eq_underscore (h : StandsFor e c) (hc : isBlankOrUnderscore c = true) :
    e = '_' := by
  cases h with
  | joint he _ => exact he
  | letter hletter _ =>
    rw [not_isBlankOrUnderscore_of_joins (isLetterOrDigit hletter).joins] at hc
    cases hc

theorem StandsFor.ascii (h : StandsFor e c) : c.toNat < 128 := by
  cases h with
  | joint _ hc => exact (joint_spec hc).1
  | letter hc _ => exact ascii_of_isAlphanum hc

/-- Up to the case of letters a character and what it stands for leave the same in a segment. -/
theorem StandsFor.toLower_hyphenate (h : StandsFor e c) :
    (hyphenate c).toLower = (hyphenate e).toLower := by
  cases h with
  | joint he hc =>
    obtain ⟨-, -, -, hhyphen⟩ := joint_spec hc
    rw [he, hhyphen]
    decide
  | letter hc he =>
    subst he
    have hlower := (isLetterOrDigit hc).toLower
    have hsmall : c.toLower.toLower = c.toLower := by
      have hspec := forall_ascii (fun c => c.toLower.toLower == c.toLower) (by decide)
        (ascii_of_isAlphanum hc)
      exact beq_iff_eq.mp hspec
    rw [hyphenate_of_isAlphanum hc, hyphenate_of_isAlphanum hlower, hsmall]

theorem runsApart_of_standsFor (h : List.Forall₂ StandsFor spelling cs)
    (hspelling : spelling.IsChain fun before e => before = '_' → e ≠ '_') : RunsApart cs := by
  induction h with
  | nil => exact .nil
  | @cons e c spelling rest hec hrest ih =>
    rw [List.isChain_cons] at hspelling
    rw [RunsApart, List.isChain_cons]
    refine ⟨?_, ih hspelling.2⟩
    intro d hd hc
    cases hrest with
    | nil => cases hd
    | @cons f d' spelling rest hfd _ =>
      obtain rfl : d' = d := Option.mem_some_iff.mp hd
      have hf : f ≠ '_' := hspelling.1 f rfl (hec.eq_underscore hc)
      exact Bool.eq_false_iff.mpr fun hblank => hf (hfd.eq_underscore hblank)

theorem runsApart_of_isSpelling (h : a.IsSpelling cs) : RunsApart cs := by
  apply runsApart_of_standsFor (isSpelling_iff.mp h)
  cases a <;> decide

theorem ascii_of_standsFor (h : List.Forall₂ StandsFor spelling cs) :
    ∀ c ∈ cs, c.toNat < 128 := by
  induction h with
  | nil => exact List.forall_mem_nil _
  | cons hec _ ih => exact List.forall_mem_cons.mpr ⟨hec.ascii, ih⟩

theorem ascii_hyphenate (h : c.toNat < 128) : (hyphenate c).toNat < 128 := by
  unfold hyphenate
  split
  · decide
  · exact h

/-- The segment of a spelling is taken character by character. -/
theorem toList_segment_of_isSpelling (h : a.IsSpelling cs) :
    (segment (String.ofList cs)).toList =
      (splitHumps cs).map fun c => (hyphenate c).toLower := by
  have hapart := runsApart_splitHumps (runsApart_of_isSpelling h)
  have hascii : ∀ d ∈ (splitHumps cs).map hyphenate, d.toNat < 128 := by
    intro d hd
    obtain ⟨c, hc, rfl⟩ := List.mem_map.mp hd
    apply ascii_hyphenate
    by_cases hhyphen : c = '-'
    · rw [hhyphen]
      decide
    · exact ascii_of_standsFor (isSpelling_iff.mp h) c ((mem_splitHumps_iff hhyphen cs).mp hc)
  rw [toList_segment, String.toList_ofList, collapseRuns_of_runsApart hapart,
    lowercase_of_ascii hascii, List.map_map]
  rfl

theorem map_hyphenate_eq (h : List.Forall₂ StandsFor spelling cs) :
    cs.map (fun c => (hyphenate c).toLower) = spelling.map fun c => (hyphenate c).toLower := by
  induction h with
  | nil => rfl
  | cons hec _ ih => rw [List.map_cons, List.map_cons, hec.toLower_hyphenate, ih]

theorem humpFree_name (a : Archetype) : HumpFree a.name.toList := by
  cases a <;> decide

theorem toList_segment_name (a : Archetype) :
    (segment a.name).toList = a.name.toList.map fun c => (hyphenate c).toLower := by
  have hname := toList_segment_of_isSpelling a.isSpelling_self
  rwa [String.ofList_toList, splitHumps_eq_self_iff.mpr a.humpFree_name] at hname

theorem length_segment_name_le (h : a.IsSpelling cs) :
    (segment a.name).toList.length ≤ (segment (String.ofList cs)).toList.length := by
  rw [toList_segment_name, toList_segment_of_isSpelling h, List.length_map, List.length_map,
    (isSpelling_iff.mp h).length_eq]
  exact (sublist_splitHumps cs).length_le

theorem segment_eq_iff (h : a.IsSpelling cs) :
    segment (String.ofList cs) = segment a.name ↔ HumpFree cs := by
  have hforall := isSpelling_iff.mp h
  rw [← String.toList_inj, toList_segment_of_isSpelling h, toList_segment_name,
    ← map_hyphenate_eq hforall]
  constructor
  · intro heq
    -- the hyphen of a hump would make one segment longer than the other
    have hlength := congrArg List.length heq
    rw [List.length_map, List.length_map] at hlength
    exact splitHumps_eq_self_iff.mp ((sublist_splitHumps cs).eq_of_length hlength.symm).symm
  · intro hfree
    rw [splitHumps_eq_self_iff.mpr hfree]

end Archetype

/-! ### The name of a page -/

namespace ArchetypeName

/-- The identifier of a name is the one of what it stands for, unless it is an archetype with a
capital within a word. -/
theorem identifier_text_iff (name : String) :
    identifier (parse name).text = identifier name ↔
      ∀ a, Archetype.parse name = .ok a → CapitalsLead (trim name.toList) := by
  rw [← identifier_trimmed name, eq_comm, trimmed]
  cases hname : parse name with
  | known a =>
    have hparse := parse_eq_known_iff.mp hname
    have hspelling := (Archetype.parse_iff_isSpelling name a).mp hparse
    rw [text, Archetype.identifier_eq_iff hspelling]
    exact ⟨fun h _ _ => h, fun h => h a hparse⟩
  | unknown other =>
    obtain ⟨rfl, hnone⟩ := parse_eq_unknown_iff.mp hname
    exact iff_of_true rfl fun a ha => absurd ha (hnone a)

/-- The segment of a name is the one of what it stands for, unless the blanks around it leave a
hyphen or it is an archetype with a hump. -/
theorem segment_text_iff (name : String) :
    segment (parse name).text = segment name ↔
      BlanksMerge name.toList ∧
        ∀ a, Archetype.parse name = .ok a → HumpFree (trim name.toList) := by
  rw [eq_comm]
  cases hname : parse name with
  | known a =>
    have hparse := parse_eq_known_iff.mp hname
    have hspelling := (Archetype.parse_iff_isSpelling name a).mp hparse
    have hfree : (∀ b, Archetype.parse name = .ok b → HumpFree (trim name.toList)) ↔
        HumpFree (trim name.toList) := ⟨fun h => h a hparse, fun h _ _ => h⟩
    rw [text, hfree, ← String.toList_inj,
      toList_segment_eq_iff (Archetype.length_segment_name_le hspelling), String.toList_inj, trimmed,
      Archetype.segment_eq_iff hspelling]
  | unknown other =>
    obtain ⟨rfl, hnone⟩ := parse_eq_unknown_iff.mp hname
    have hother : ∀ a, Archetype.parse name = .ok a → HumpFree (trim name.toList) :=
      fun a ha => absurd ha (hnone a)
    rw [text, and_iff_left hother]
    exact segment_eq_segment_trimmed_iff name

end ArchetypeName

end Scaffold
