import Scaffold.PageName
import Scaffold.Proofs.Text.UpperCase

/-!
# How identifiers begin

The compact name can be written in one pass over the name (`compactFrom`), and its first character
that an identifier keeps is looked for in the same pass (`initial?`). If this character begins its
segment it has been capitalised. If something was dropped in front of it, then that was capitalised
in its place, and the identifier begins with the character as it stands in the name.
-/

namespace Scaffold.PageName

open Text

variable {begins : Bool} {c d : Char} {cs tail : List Char}

/-! ### Kinds of characters -/

/-- No letter and no digit is white space or one of the signs in names, and what takes several
characters to be written for a letter has no separator among them. -/
theorem separators_apart :
    (whiteSpace.all fun blank => (Table.alphabetic ++ Table.numeric).all fun range =>
      Nat.blt blank.2 range.1 || Nat.blt range.2 blank.1) = true ∧
    (['-', '_', '$'].all fun sign => !isAlphanumeric sign) = true ∧
    (Table.upperSpecial.all fun row => row.2.all fun n => !isSeparator (Char.ofNat n)) = true := by
  decide +kernel

theorem not_isAlphanumeric_sign (h : c ∈ ['-', '_', '$']) : isAlphanumeric c = false := by
  simpa using List.all_eq_true.mp separators_apart.2.1 c h

/-- Letters and digits do not separate anything. -/
theorem isSeparator_of_isAlphanumeric (h : isAlphanumeric c = true) : isSeparator c = false := by
  have hspace : isSpace c = false := by
    rw [Bool.eq_false_iff]
    intro hblank
    obtain ⟨blank, hmem, hblank⟩ := Ranges.has_iff.mp hblank
    obtain ⟨range, hrange, hletter⟩ : ∃ range ∈ Table.alphabetic ++ Table.numeric,
        range.1 ≤ c.toNat ∧ c.toNat ≤ range.2 := by
      simp only [isAlphanumeric, isAlphabetic, isNumeric, Bool.or_eq_true, Ranges.has_iff] at h
      simpa only [List.mem_append, or_and_right, exists_or] using h
    have hapart := List.all_eq_true.mp (List.all_eq_true.mp separators_apart.1 blank hmem)
      range hrange
    simp only [Bool.or_eq_true, Nat.blt_eq] at hapart
    omega
  have hhyphen : c ≠ '-' := by
    rintro rfl
    exact absurd h (by simp [not_isAlphanumeric_sign])
  have hunderscore : c ≠ '_' := by
    rintro rfl
    exact absurd h (by simp [not_isAlphanumeric_sign])
  simp [isSeparator, hspace, hhyphen, hunderscore]

theorem eq_of_isSeparator_of_mem_upper (hd : isSeparator d = true) (h : d ∈ upper c) : d = c := by
  obtain heq | ⟨row, hrow, -, heq⟩ | ⟨run, hrun, hhas, heq⟩ := upper_cases c
  · rwa [heq, List.mem_singleton] at h
  · rw [heq] at h
    obtain ⟨n, hn, rfl⟩ := List.mem_map.mp h
    have hjoins := List.all_eq_true.mp (List.all_eq_true.mp separators_apart.2.2 row hrow) n hn
    exact absurd hd (by simpa using hjoins)
  · rw [heq, List.mem_singleton] at h
    have hletter := isAlphabetic_shift hrun hhas
    rw [← h] at hletter
    exact absurd hd (by simp [isSeparator_of_isAlphanumeric, isAlphanumeric, hletter])

theorem isIdentifierChar_of_isAlphabetic (h : isAlphabetic c = true) :
    isIdentifierChar c = true := by
  simp [isIdentifierChar, isAlphanumeric, h]

theorem upper_of_not_isAlphabetic (h : ¬isAlphabetic c = true) : upper c = [c] :=
  not_not.mp (mt isAlphabetic_of_upper_ne h)

/-- The upper-case form of a character that is kept starts with one, which is a capital. -/
theorem exists_upper_eq_cons_of_keeps (h : isIdentifierChar c = true) :
    ∃ d rest, upper c = d :: rest ∧ isIdentifierChar d = true ∧ upper d = [d] := by
  by_cases hc : isAlphabetic c = true
  · obtain ⟨d, rest, hupper, hd, hcapital⟩ := exists_upper_eq_cons hc
    exact ⟨d, rest, hupper, isIdentifierChar_of_isAlphabetic hd, hcapital⟩
  · exact ⟨c, [], upper_of_not_isAlphabetic hc, h, upper_of_not_isAlphabetic hc⟩

/-! ### One pass

Splitting a name and capitalising its segments is the same as going over the name once, knowing of
each character whether a segment begins with it. -/

/-- The segments of a text, each capitalised, where `begins` tells whether the first one begins
here or goes on. -/
@[simp]
def compactFrom (begins : Bool) : List Char → List Char
  | [] => []
  | c :: rest =>
    if isSeparator c then compactFrom true rest
    else (if begins then upper c else [c]) ++ compactFrom false rest

theorem exists_splitOn_eq (cs : List Char) :
    ∃ piece more, splitOn isSeparator cs = piece :: more ∧
      compactFrom true cs = capitalize piece ++ more.flatMap capitalize ∧
      compactFrom false cs = piece ++ more.flatMap capitalize := by
  induction cs with
  | nil => exact ⟨[], [], rfl, rfl, rfl⟩
  | cons c rest ih =>
    obtain ⟨piece, more, hsplit, hbegins, hgoes⟩ := ih
    by_cases hc : isSeparator c = true
    · refine ⟨[], piece :: more, by simp [splitOn, hsplit, hc], ?_, ?_⟩
      · simp [hc, hbegins, capitalize]
      · simp [hc, hbegins]
    · refine ⟨c :: piece, more, by simp [splitOn, hsplit, hc], ?_, ?_⟩
      · simp [hc, hgoes, capitalize]
      · simp [hc, hgoes]

theorem toList_compact (name : String) : (compact name).toList = compactFrom true name.toList := by
  obtain ⟨piece, more, hsplit, hbegins, -⟩ := exists_splitOn_eq name.toList
  rw [compact, String.toList_ofList, hsplit, hbegins, List.flatMap_cons]

/-- Capitals do not separate, so no separator is left. -/
theorem not_isSeparator_of_mem_compactFrom (h : d ∈ compactFrom begins cs) :
    isSeparator d = false := by
  induction cs generalizing begins with
  | nil => cases h
  | cons c rest ih =>
    rw [compactFrom] at h
    split at h
    · exact ih h
    · next hc =>
      rcases List.mem_append.mp h with h | h
      · have hself : isSeparator d = true → d = c := by
          intro hd
          cases begins with
          | true => exact eq_of_isSeparator_of_mem_upper hd h
          | false => exact List.mem_singleton.mp h
        rw [Bool.eq_false_iff]
        intro hd
        exact hc (hself hd ▸ hd)
      · exact ih h

/-- The rest of a segment stays as it is. -/
theorem compactFrom_of_joins (h : ∀ d ∈ cs, isSeparator d = false) : compactFrom false cs = cs := by
  induction cs with
  | nil => rfl
  | cons c rest ih =>
    rw [List.forall_mem_cons] at h
    simp [h.1, ih h.2]

/-! ### What is kept -/

/-- What of the compact name an identifier keeps. -/
def kept (begins : Bool) (cs : List Char) : List Char :=
  (compactFrom begins cs).filter isIdentifierChar

theorem toList_identifier (name : String) :
    (identifier name).toList =
      if (kept true name.toList).head?.any isAlphabetic then kept true name.toList
      else "Page".toList ++ kept true name.toList := by
  have hkept : (compact name).toList.filter isIdentifierChar = kept true name.toList := by
    rw [toList_compact, kept]
  unfold identifier
  simp only [hkept]
  split <;> rw [String.toList_ofList]

/-- A character of an identifier, which separates nothing. -/
structure IsPlain (c : Char) : Prop where
  keeps : isIdentifierChar c = true
  joins : isSeparator c = false

theorem isPlain_of_mem_kept (h : c ∈ kept begins cs) : IsPlain c := by
  obtain ⟨hmem, hkeeps⟩ := List.mem_filter.mp h
  refine ⟨hkeeps, ?_⟩
  simp only [isIdentifierChar, Bool.or_eq_true, beq_iff_eq] at hkeeps
  obtain (hletter | rfl) | rfl := hkeeps
  · exact isSeparator_of_isAlphanumeric hletter
  · exact absurd (not_isSeparator_of_mem_compactFrom hmem) (by decide)
  · decide

theorem isPlain_of_isAlphabetic (h : isAlphabetic c = true) : IsPlain c where
  keeps := isIdentifierChar_of_isAlphabetic h
  joins := isSeparator_of_isAlphanumeric (by simp [isAlphanumeric, h])

/-- What is put in front of a name that does not start with a letter starts with a capital. -/
theorem page_spec : upper 'P' = ['P'] ∧ "Page".toList.all isAlphabetic = true := by
  decide

theorem isAlphabetic_of_mem_page (h : c ∈ "Page".toList) : isAlphabetic c = true :=
  List.all_eq_true.mp page_spec.2 c h

/-- An identifier starts with a letter. -/
theorem exists_toList_identifier (name : String) :
    ∃ c tail, (identifier name).toList = c :: tail ∧ isAlphabetic c = true ∧
      ∀ d ∈ tail, IsPlain d := by
  have hplain : ∀ d ∈ kept true name.toList, IsPlain d := fun _ => isPlain_of_mem_kept
  rw [toList_identifier]
  split
  · next h =>
    obtain ⟨c, hc, hletter⟩ := (Option.any_eq_true _ _).mp h
    obtain ⟨tail, htail⟩ := List.head?_eq_some_iff.mp hc
    rw [htail, List.forall_mem_cons] at hplain
    exact ⟨c, tail, htail, hletter, hplain.2⟩
  · refine ⟨'P', "age".toList ++ kept true name.toList, rfl,
      isAlphabetic_of_mem_page List.mem_cons_self, ?_⟩
    intro d hd
    rcases List.mem_append.mp hd with hd | hd
    · exact isPlain_of_isAlphabetic (isAlphabetic_of_mem_page (List.mem_cons_of_mem 'P' hd))
    · exact hplain d hd

theorem isPlain_of_mem_identifier {name : String} (h : c ∈ (identifier name).toList) :
    IsPlain c := by
  obtain ⟨first, tail, hname, hfirst, htail⟩ := exists_toList_identifier name
  rw [hname, List.mem_cons] at h
  rcases h with rfl | h
  · exact isPlain_of_isAlphabetic hfirst
  · exact htail c h

theorem notMem_identifier_of_dropped (h : isIdentifierChar c = false) (name : String) :
    c ∉ (identifier name).toList := by
  intro hmem
  rw [(isPlain_of_mem_identifier hmem).keeps] at h
  cases h

/-- What becomes of an identifier that is taken for a name. -/
theorem toList_identifier_of_isPlain {text : String} (htext : text.toList = c :: tail)
    (hc : isAlphabetic c = true) (htail : ∀ d ∈ tail, IsPlain d) :
    (identifier text).toList = (upper c).filter isIdentifierChar ++ tail := by
  obtain ⟨d, rest, hupper, hd, -⟩ := exists_upper_eq_cons hc
  have hkept : kept true text.toList = (upper c).filter isIdentifierChar ++ tail := by
    have hall : tail.filter isIdentifierChar = tail :=
      List.filter_eq_self.mpr fun x hx => (htail x hx).keeps
    simp [kept, htext, (isPlain_of_isAlphabetic hc).joins,
      compactFrom_of_joins fun d hd => (htail d hd).joins, hall]
  have hletter : (kept true text.toList).head?.any isAlphabetic = true := by
    simp [hkept, hupper, isIdentifierChar_of_isAlphabetic hd, hd]
  rw [toList_identifier, if_pos hletter, hkept]

/-! ### Capitals -/

/-- The first character of a text is left unchanged by upper-casing. -/
def StartsCapital (text : String) : Prop := ∃ c rest, text.toList = c :: rest ∧ upper c = [c]

theorem startsCapital_iff {text : String} (h : text.toList = c :: tail) :
    StartsCapital text ↔ upper c = [c] := by
  simp [StartsCapital, h]

/-- An identifier is its own identifier just when it starts with a capital. -/
theorem identifier_identifier_iff (name : String) :
    identifier (identifier name) = identifier name ↔ StartsCapital (identifier name) := by
  obtain ⟨c, tail, hname, hc, htail⟩ := exists_toList_identifier name
  obtain ⟨d, rest, hupper, hd, hcapital⟩ := exists_upper_eq_cons hc
  rw [startsCapital_iff hname, ← String.toList_inj, toList_identifier_of_isPlain hname hc htail,
    hname]
  constructor
  · -- the copy starts with a capital, so the identifier does if they are the same
    intro h
    rw [hupper, List.filter_cons_of_pos (isIdentifierChar_of_isAlphabetic hd)] at h
    obtain rfl : d = c := (List.cons.inj h).1
    exact hcapital
  · intro h
    simp [h, isIdentifierChar_of_isAlphabetic hc]

/-! ### The first character that is kept -/

/-- The first character of a text that an identifier keeps, and whether it begins its segment. The
text itself begins or goes on with a segment. -/
def initial? (begins : Bool) : List Char → Option (Bool × Char)
  | [] => none
  | c :: rest =>
    if isSeparator c then initial? true rest
    else if isIdentifierChar c then some (begins, c)
    else initial? false rest

theorem kept_cons_of_not_isIdentifierChar (hc : isSeparator c = false)
    (h : isIdentifierChar c = false) : kept begins (c :: cs) = kept false cs := by
  have hupper : upper c = [c] := upper_of_not_isAlphabetic fun hletter =>
    absurd (isIdentifierChar_of_isAlphabetic hletter) (by simp [h])
  cases begins <;> simp [kept, hc, h, hupper]

theorem kept_of_initial?_eq_none (h : initial? begins cs = none) : kept begins cs = [] := by
  induction cs generalizing begins with
  | nil => rfl
  | cons c rest ih =>
    rw [initial?] at h
    split at h
    · next hc =>
      rw [kept, compactFrom, if_pos hc]
      exact ih h
    · next hc =>
      split at h
      · cases h
      · next hdrop =>
        rw [kept_cons_of_not_isIdentifierChar (by simpa using hc) (by simpa using hdrop)]
        exact ih h

theorem exists_kept_of_initial?_eq_some {first : Bool}
    (h : initial? begins cs = some (first, c)) :
    isIdentifierChar c = true ∧ ∃ tail, kept begins cs =
      (if first then upper c else [c]).filter isIdentifierChar ++ tail := by
  induction cs generalizing begins with
  | nil => cases h
  | cons d rest ih =>
    rw [initial?] at h
    split at h
    · next hd =>
      rw [kept, compactFrom, if_pos hd]
      exact ih h
    · next hd =>
      split at h
      · next hkeep =>
        cases h
        refine ⟨hkeep, kept false rest, ?_⟩
        rw [kept, compactFrom, if_neg hd, List.filter_append, kept]
      · next hdrop =>
        rw [kept_cons_of_not_isIdentifierChar (by simpa using hd) (by simpa using hdrop)]
        exact ih h

theorem head?_kept {first : Bool} (h : initial? begins cs = some (first, c)) :
    (kept begins cs).head? = (if first then upper c else [c]).head? := by
  obtain ⟨hkeep, tail, hkept⟩ := exists_kept_of_initial?_eq_some h
  cases first with
  | true =>
    obtain ⟨d, rest, hupper, hd, -⟩ := exists_upper_eq_cons_of_keeps hkeep
    simp [hkept, hupper, hd]
  | false => simp [hkept, hkeep]

/-- The first character that is kept of a name begins its segment, or is a capital as it stands. -/
def BeginsCapital (name : String) : Prop :=
  ∀ c, initial? true name.toList = some (false, c) → upper c = [c]

theorem startsCapital_identifier_iff_of_kept {name : String}
    (h : kept true name.toList = c :: tail) :
    StartsCapital (identifier name) ↔ (isAlphabetic c = true → upper c = [c]) := by
  have hidentifier := toList_identifier name
  rw [h] at hidentifier
  by_cases hc : isAlphabetic c = true
  · rw [startsCapital_iff (by simpa [hc] using hidentifier), forall_prop_of_true hc]
  · have hpage : (identifier name).toList = 'P' :: ("age".toList ++ c :: tail) := by
      simpa [hc] using hidentifier
    exact iff_of_true ((startsCapital_iff hpage).mpr page_spec.1) fun hc' => absurd hc' hc

theorem startsCapital_identifier_iff (name : String) :
    StartsCapital (identifier name) ↔ BeginsCapital name := by
  cases hinitial : initial? true name.toList with
  | none =>
    have hempty := toList_identifier name
    rw [kept_of_initial?_eq_none hinitial] at hempty
    refine iff_of_true ((startsCapital_iff hempty).mpr page_spec.1) ?_
    simp [BeginsCapital, hinitial]
  | some found =>
    obtain ⟨first, c⟩ := found
    obtain ⟨hkeep, tail, hkept⟩ := exists_kept_of_initial?_eq_some hinitial
    cases first with
    | true =>
      -- it has been capitalised
      obtain ⟨d, rest, hupper, hd, hcapital⟩ := exists_upper_eq_cons_of_keeps hkeep
      have hfront : kept true name.toList = d :: (rest.filter isIdentifierChar ++ tail) := by
        simpa [hupper, hd] using hkept
      exact iff_of_true ((startsCapital_identifier_iff_of_kept hfront).mpr fun _ => hcapital)
        (by simp [BeginsCapital, hinitial])
    | false =>
      -- it stands as in the name
      have hfront : kept true name.toList = c :: tail := by simpa [hkeep] using hkept
      have hbegins : BeginsCapital name ↔ upper c = [c] := by simp [BeginsCapital, hinitial]
      rw [startsCapital_identifier_iff_of_kept hfront, hbegins]
      exact ⟨fun h => by_contra fun hne => hne (h (isAlphabetic_of_upper_ne hne)), fun h _ => h⟩

/-- An identifier starts with a capital, and is its own identifier, just when nothing is dropped
in front of its first character or this is a capital as it stands. -/
theorem identifier_capital_iff (name : String) :
    (StartsCapital (identifier name) ↔ BeginsCapital name) ∧
      (identifier (identifier name) = identifier name ↔ BeginsCapital name) :=
  ⟨startsCapital_identifier_iff name,
    (identifier_identifier_iff name).trans (startsCapital_identifier_iff name)⟩

/-- A sign in front of the first letter is capitalised in its place. -/
theorem not_forall_startsCapital :
    ¬∀ name, StartsCapital (identifier name) ∧
      identifier (identifier name) = identifier name := by
  intro h
  have hidentifier : identifier "!abc" = "abc" := by decide +kernel
  obtain ⟨⟨c, rest, hcons, hc⟩, -⟩ := h "!abc"
  rw [hidentifier] at hcons
  cases hcons
  exact absurd hc (by decide +kernel)

end Scaffold.PageName
