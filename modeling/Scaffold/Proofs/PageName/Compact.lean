import Scaffold.Proofs.PageName.Identifier
import Scaffold.Proofs.Text.Lines

/-!
# What a compact name keeps

A compact name is put together from the segments of a name, and only separators are lost
(`IsCutInto` says what the segments are, and `isCutInto_iff` that a name has them in one way only).
Capitals do not separate, so a compact name is one segment, and it starts with a capital already:
it is its own compact name.
-/

namespace Scaffold.PageName

open Text

variable {c d : Char} {cs word : List Char} {pieces : List (List Char)}

/-! ### Compact names -/

theorem exists_upper_eq_capital (c : Char) : ∃ d rest, upper c = d :: rest ∧ upper d = [d] := by
  by_cases hc : isAlphabetic c = true
  · obtain ⟨d, rest, hupper, -, hcapital⟩ := exists_upper_eq_cons hc
    exact ⟨d, rest, hupper, hcapital⟩
  · have hself := upper_of_not_isAlphabetic hc
    exact ⟨c, [], hself, hself⟩

/-- A compact name that is not empty starts with a capital. -/
theorem compactFrom_starts (cs : List Char) :
    compactFrom true cs = [] ∨ ∃ d rest, compactFrom true cs = d :: rest ∧ upper d = [d] := by
  induction cs with
  | nil => exact .inl rfl
  | cons c rest ih =>
    rw [compactFrom]
    split
    · exact ih
    · obtain ⟨d, more, hupper, hcapital⟩ := exists_upper_eq_capital c
      right
      refine ⟨d, more ++ compactFrom false rest, ?_, hcapital⟩
      rw [if_pos rfl, hupper, List.cons_append]

theorem compact_compact (name : String) : compact (compact name) = compact name := by
  rw [← String.toList_inj, toList_compact, toList_compact]
  have hjoins : ∀ d ∈ compactFrom true name.toList, isSeparator d = false :=
    fun _ => not_isSeparator_of_mem_compactFrom
  rcases compactFrom_starts name.toList with hempty | ⟨d, rest, hcons, hcapital⟩
  · rw [hempty]
    rfl
  · rw [hcons, List.forall_mem_cons] at hjoins
    rw [hcons, compactFrom, hjoins.1, compactFrom_of_joins hjoins.2, if_pos rfl, hcapital]
    rfl

/-! ### Segments -/

/-- The text is cut at its separators into the non-empty pieces between them. -/
inductive IsCutInto : List Char → List (List Char) → Prop
  | nil : IsCutInto [] []
  | separator {c : Char} {cs : List Char} {pieces : List (List Char)} : isSeparator c = true →
      IsCutInto cs pieces → IsCutInto (c :: cs) pieces
  | piece {word cs : List Char} {pieces : List (List Char)} : word ≠ [] →
      (∀ c ∈ word, isSeparator c = false) → (∀ c ∈ cs.head?, isSeparator c = true) →
      IsCutInto cs pieces → IsCutInto (word ++ cs) (word :: pieces)

theorem IsCutInto.single (hc : isSeparator c = false)
    (hstops : ∀ d ∈ cs.head?, isSeparator d = true) (h : IsCutInto cs pieces) :
    IsCutInto (c :: cs) ([c] :: pieces) := by
  show IsCutInto ([c] ++ cs) ([c] :: pieces)
  refine .piece (List.cons_ne_nil c []) ?_ hstops h
  rwa [List.forall_mem_singleton]

theorem exists_isCutInto (cs : List Char) : ∃ pieces, IsCutInto cs pieces := by
  induction cs with
  | nil => exact ⟨[], .nil⟩
  | cons c rest ih =>
    obtain ⟨pieces, h⟩ := ih
    by_cases hc : isSeparator c = true
    · exact ⟨pieces, .separator hc h⟩
    rw [Bool.not_eq_true] at hc
    -- the character is a piece, or goes in front of the one that the rest begins with
    cases h with
    | nil => exact ⟨[[c]], .single hc (by simp) .nil⟩
    | separator hd h => exact ⟨[c] :: pieces, .single hc (by simpa using hd) (.separator hd h)⟩
    | @piece word cs more hne hword hstops h =>
      refine ⟨(c :: word) :: more, ?_⟩
      show IsCutInto ((c :: word) ++ cs) ((c :: word) :: more)
      refine .piece (List.cons_ne_nil c word) ?_ hstops h
      rw [List.forall_mem_cons]
      exact ⟨hc, hword⟩

/-- The pieces between separators that are not empty. -/
def segments (cs : List Char) : List (List Char) :=
  (splitOn isSeparator cs).filter (! ·.isEmpty)

theorem segments_separator (hc : isSeparator c = true) (cs : List Char) :
    segments (c :: cs) = segments cs := by
  have hsplit : splitOn isSeparator ([] ++ c :: cs) = [] :: splitOn isSeparator cs :=
    splitOn_append_cons (by simp) hc cs
  rw [List.nil_append] at hsplit
  simp [segments, hsplit]

theorem segments_append (hne : word ≠ []) (hword : ∀ c ∈ word, isSeparator c = false)
    (hstops : ∀ c ∈ cs.head?, isSeparator c = true) :
    segments (word ++ cs) = word :: segments cs := by
  cases cs with
  | nil =>
    rw [List.append_nil, segments, splitOn_eq_singleton hword]
    simp [segments, splitOn, hne]
  | cons d rest =>
    have hd : isSeparator d = true := hstops d rfl
    rw [segments_separator hd, segments, splitOn_append_cons hword hd]
    simp [segments, hne]

theorem IsCutInto.eq_segments (h : IsCutInto cs pieces) : pieces = segments cs := by
  induction h with
  | nil => rfl
  | separator hc _ ih => rw [segments_separator hc, ih]
  | piece hne hword hstops _ ih => rw [segments_append hne hword hstops, ih]

/-- A text has its pieces in one way. -/
theorem isCutInto_iff : IsCutInto cs pieces ↔ pieces = segments cs := by
  constructor
  · exact IsCutInto.eq_segments
  · rintro rfl
    obtain ⟨pieces, h⟩ := exists_isCutInto cs
    rwa [← h.eq_segments]

theorem toList_compact_eq_segments (name : String) :
    (compact name).toList = (segments name.toList).flatMap capitalize := by
  rw [compact, String.toList_ofList, segments]
  induction splitOn isSeparator name.toList with
  | nil => rfl
  | cons piece more ih =>
    cases piece with
    | nil => exact ih
    | cons c rest => exact congrArg (capitalize (c :: rest) ++ ·) ih

/-- A compact name has no separator and is its own compact name. It is made of the pieces of the
name between its separators, in their order: of each the first character in upper case, which may be
several, and the rest as it is. -/
theorem compact_pieces (name : String) :
    (∀ c ∈ (compact name).toList, c ≠ '-' ∧ c ≠ '_' ∧ isSpace c = false) ∧
    compact (compact name) = compact name ∧
    ∃ pieces, (∀ other, IsCutInto name.toList other ↔ other = pieces) ∧
      (compact name).toList = pieces.flatMap fun
        | [] => []
        | first :: rest => upper first ++ rest := by
  refine ⟨?_, compact_compact name, segments name.toList, fun _ => isCutInto_iff, ?_⟩
  · intro c hc
    rw [toList_compact] at hc
    have hjoins := not_isSeparator_of_mem_compactFrom hc
    simpa [isSeparator, and_assoc] using hjoins
  · rw [toList_compact_eq_segments]
    refine List.flatMap_congr fun piece _ => ?_
    cases piece <;> rfl

end Scaffold.PageName
