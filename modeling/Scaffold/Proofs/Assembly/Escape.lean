import Scaffold.Assembly
import Scaffold.Proofs.Text.Words

/-!
# Escaping a template

The two escapes that a body goes through before it stands in a literal template. Both replace
characters one by one, as long as no brace is left for the second to look at; a text with its
entities in place has none.
-/

namespace Scaffold

open Text

/-! ### Entities -/

theorem templateEntity_eq_self {c : Char} (hat : c ≠ '@') (hopen : c ≠ '\x7b')
    (hclose : c ≠ '\x7d') : templateEntity c = [c] := by
  unfold templateEntity
  split <;> simp_all

/-- The entities that stand for a character a template would take for its own. -/
def entities : List Rule := [⟨"&#64;", "@"⟩, ⟨"&#123;", "\x7b"⟩, ⟨"&#125;", "\x7d"⟩]

/-- A character is kept or written as its entity. -/
theorem templateEntity_spec (c : Char) :
    templateEntity c = [c] ∨
      ∃ r ∈ entities, templateEntity c = r.keyword.toList ∧ r.spelling.toList = [c] := by
  unfold templateEntity
  split
  · exact .inr (by decide)
  · exact .inr (by decide)
  · exact .inr (by decide)
  · exact .inl rfl

theorem not_mem_templateEntity (c : Char) :
    '@' ∉ templateEntity c ∧ '\x7b' ∉ templateEntity c ∧ '\x7d' ∉ templateEntity c := by
  unfold templateEntity
  split
  · decide
  · decide
  · decide
  · next hat hopen hclose => simp [Ne.symm hat, Ne.symm hopen, Ne.symm hclose]

/-- No character that a template would take for its own is left. -/
theorem not_mem_escapeInterpolation (cs : List Char) :
    '@' ∉ escapeInterpolation cs ∧ '\x7b' ∉ escapeInterpolation cs ∧
      '\x7d' ∉ escapeInterpolation cs := by
  simp only [escapeInterpolation, List.mem_flatMap, not_exists, not_and]
  exact ⟨fun c _ => (not_mem_templateEntity c).1, fun c _ => (not_mem_templateEntity c).2.1,
    fun c _ => (not_mem_templateEntity c).2.2⟩

theorem templateEntity_keepsSpace : KeepsSpace templateEntity where
  space c hc := by
    refine templateEntity_eq_self ?_ ?_ ?_ <;>
    · rintro rfl
      exact absurd hc (by decide)
  ne_nil c := by
    unfold templateEntity
    split <;> simp
  ink c hc := by
    intro d hd
    rcases templateEntity_spec c with heq | ⟨r, hr, hentity, -⟩
    · rw [heq, List.mem_singleton] at hd
      exact hd ▸ hc
    · have hall : ∀ r ∈ entities, r.keyword.toList.all (!isSpace ·) = true := by decide
      rw [hentity] at hd
      simpa using List.all_eq_true.mp (hall r hr) d hd

/-! ### The inside of a literal -/

/-- The escape of a character by itself: a backslash before a backslash and a backquote. -/
def literalChar (c : Char) : List Char :=
  if c = '\\' then ['\\', '\\'] else if c = '\x60' then ['\\', '\x60'] else [c]

theorem eq_of_mem_literalChar {c d : Char} (h : d ∈ literalChar c) : d = c ∨ d = '\\' := by
  unfold literalChar at h
  split at h
  · exact .inr (by simpa using h)
  · split at h
    · next hquote => simpa [hquote, or_comm] using h
    · exact .inl (by simpa using h)

/-- Backslashes and backquotes go first, then what would open a placeholder. -/
theorem escapeLiteral_eq (cs : List Char) :
    escapeLiteral cs =
      replaceAll ['$', '\x7b'] ['\\', '$', '\x7b'] (cs.flatMap literalChar) := by
  rw [escapeLiteral, replaceAll_singleton, replaceAll_singleton, List.flatMap_assoc]
  congr 2
  funext c
  unfold literalChar
  split <;> simp

theorem escapeLiteral_of_no_brace {cs : List Char} (h : '\x7b' ∉ cs) :
    escapeLiteral cs = cs.flatMap literalChar := by
  rw [escapeLiteral_eq]
  refine replaceAll_eq_self fun hin => h ?_
  have hmem : '\x7b' ∈ cs.flatMap literalChar := hin.subset (by simp)
  obtain ⟨c, hc, hbrace⟩ := List.mem_flatMap.mp hmem
  rcases eq_of_mem_literalChar hbrace with rfl | heq
  · exact hc
  · exact absurd heq (by decide)

/-- Under both escapes a text has no character that a template would take for its own. -/
theorem not_mem_escaped (cs : List Char) :
    '@' ∉ escapeLiteral (escapeInterpolation cs) ∧
      '\x7b' ∉ escapeLiteral (escapeInterpolation cs) ∧
      '\x7d' ∉ escapeLiteral (escapeInterpolation cs) := by
  obtain ⟨hat, hopen, hclose⟩ := not_mem_escapeInterpolation cs
  have hkept : ∀ c, c ≠ '\\' → c ∉ escapeInterpolation cs →
      c ∉ escapeLiteral (escapeInterpolation cs) := by
    intro c hc hmem hin
    rw [escapeLiteral_of_no_brace hopen] at hin
    obtain ⟨d, hd, hcd⟩ := List.mem_flatMap.mp hin
    rcases eq_of_mem_literalChar hcd with rfl | heq
    · exact hmem hd
    · exact hc heq
  exact ⟨hkept '@' (by decide) hat, hkept '\x7b' (by decide) hopen, hkept '\x7d' (by decide) hclose⟩

theorem literalChar_keepsSpace : KeepsSpace literalChar where
  space c hc := by
    have hne : c ≠ '\\' ∧ c ≠ '\x60' := by
      constructor <;> (rintro rfl; exact absurd hc (by decide))
    simp [literalChar, hne]
  ne_nil c := by
    unfold literalChar
    split
    · simp
    · split <;> simp
  ink c hc := by
    intro d hd
    rcases eq_of_mem_literalChar hd with rfl | rfl
    · exact hc
    · decide

end Scaffold
