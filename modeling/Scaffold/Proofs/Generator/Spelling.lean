import Mathlib.Data.List.Forall2
import Scaffold.Proofs.Generator.Policies
import Scaffold.Proofs.Text.LowerCase

/-!
# How names are spelled

Archetypes and targets are looked up by names in lower case. That accepts a name letter by letter,
each in either case of ASCII, and nothing else (`parse_iff_isSpelling`): what is beyond ASCII is
lowered to a `k` at best, of which there is none in these names, or leaves something beyond ASCII
behind.
-/

namespace Scaffold

open Text

variable {c d : Char} {spelling cs : List Char}

/-! ### Letters -/

/-- The same character up to the case of letters of ASCII. -/
def SameLetter (expected given : Char) : Prop := expected.toLower = given.toLower

instance (expected given : Char) : Decidable (SameLetter expected given) :=
  inferInstanceAs (Decidable (_ = _))

/-- A small letter, or another character of ASCII, that only ASCII is lowered to. -/
structure IsPlainLetter (c : Char) : Prop where
  ascii : c.toNat < 128
  ne_k : c ≠ 'k'
  small : c.toLower = c

instance (c : Char) : Decidable (IsPlainLetter c) :=
  decidable_of_iff (c.toNat < 128 ∧ c ≠ 'k' ∧ c.toLower = c)
    ⟨fun h => ⟨h.1, h.2.1, h.2.2⟩, fun h => ⟨h.ascii, h.ne_k, h.small⟩⟩

/-- Lower-casing keeps the characters of ASCII that are no letters apart from all others. -/
theorem toLower_eq_iff (hd : isCaseless d = true) : c.toLower = d ↔ c = d := by
  have hascii : d.toNat < 128 := (isCaseless_iff.mp hd).1
  constructor
  · intro h
    have hc : c.toNat < 128 := ascii_of_toLower (h ▸ hascii)
    have hmem : d ∈ lower c := by rw [lower_of_ascii hc, h]; exact List.mem_singleton_self d
    exact ((mem_lower_iff hd).mp hmem).symm
  · rintro rfl
    have hmem : c ∈ lower c := (mem_lower_iff hd).mpr rfl
    rw [lower_of_ascii hascii, List.mem_singleton] at hmem
    exact hmem.symm

/-- Lower-casing, and then putting characters in the place of others, leads to a plain text just
when it does so character by character. -/
theorem map_lowercase_eq_iff {f : Char → Char}
    (hf : ∀ d, IsPlainLetter (f d) → d.toNat < 128 ∧ d ≠ 'k')
    (h : ∀ e ∈ spelling, IsPlainLetter e) :
    (lowercase cs).map f = spelling ↔ List.Forall₂ (fun e c => e = f c.toLower) spelling cs := by
  have hpointwise : List.Forall₂ (fun e c => e = f c.toLower) spelling cs ↔
      spelling = cs.map fun c => f c.toLower := by
    rw [← List.forall₂_eq_eq_eq, List.forall₂_map_right_iff]
  have hmap : (cs.map Char.toLower).map f = cs.map fun c => f c.toLower := List.map_map
  rw [hpointwise, ← hmap]
  constructor
  · intro heq
    have hascii : ∀ c ∈ cs, c.toNat < 128 := by
      apply ascii_of_lowercase
      intro d hd
      exact hf d (h (f d) (heq ▸ List.mem_map_of_mem hd))
    rw [← heq, lowercase_of_ascii hascii]
  · intro heq
    have hascii : ∀ c ∈ cs, c.toNat < 128 := by
      intro c hc
      apply ascii_of_toLower
      refine (hf c.toLower (h (f c.toLower) ?_)).1
      rw [heq]
      exact List.mem_map_of_mem (List.mem_map_of_mem hc)
    rw [heq, lowercase_of_ascii hascii]

theorem forall₂_congr {α β : Type} {R S : α → β → Prop} {l : List α} {l' : List β}
    (h : ∀ a ∈ l, ∀ b, R a b ↔ S a b) : List.Forall₂ R l l' ↔ List.Forall₂ S l l' := by
  induction l generalizing l' with
  | nil => simp
  | cons a l ih =>
    rw [List.forall_mem_cons] at h
    cases l' with
    | nil => simp
    | cons b l' => rw [List.forall₂_cons, List.forall₂_cons, h.1, ih h.2]

/-! ### Archetypes -/

namespace Archetype

/-- What may stand in the place of a character of a name: a hyphen or a space for an underscore, and
a letter in either case. -/
def Accepts (expected given : Char) : Prop :=
  if expected = '_' then given ∈ ['_', '-', ' '] else SameLetter expected given

instance (expected given : Char) : Decidable (Accepts expected given) :=
  inferInstanceAs
    (Decidable (if expected = '_' then given ∈ ['_', '-', ' '] else SameLetter expected given))

/-- The text is the name of the archetype, spelled in one of its ways. -/
def IsSpelling (a : Archetype) (text : List Char) : Prop :=
  List.Forall₂ Accepts a.name.toList text

instance (a : Archetype) (text : List Char) : Decidable (a.IsSpelling text) :=
  inferInstanceAs (Decidable (List.Forall₂ Accepts a.name.toList text))

theorem isPlainLetter_name (a : Archetype) :
    ∀ e ∈ a.name.toList, IsPlainLetter e ∧ e ≠ '-' ∧ e ≠ ' ' := by
  have hall : (a.name.toList.all fun e => IsPlainLetter e ∧ e ≠ '-' ∧ e ≠ ' ') = true := by
    cases a <;> decide
  intro e he
  exact of_decide_eq_true (List.all_eq_true.mp hall e he)

/-- How a character is compared once it is in lower case. -/
def joined (c : Char) : Char := if c = '-' ∨ c = ' ' then '_' else c

theorem joined_eq_underscore_iff : joined d = '_' ↔ d = '_' ∨ d = '-' ∨ d = ' ' := by
  unfold joined
  split
  · next hd => simp [hd]
  · next hd => simp [hd]

theorem joined_eq_iff {e : Char} (he : e ≠ '_' ∧ e ≠ '-' ∧ e ≠ ' ') : joined d = e ↔ d = e := by
  obtain ⟨hunderscore, hhyphen, hspace⟩ := he
  unfold joined
  split
  · next hd => rcases hd with rfl | rfl <;> grind
  · rfl

theorem normalize_eq (name : String) :
    normalize name = (lowercase (trim name.toList)).map joined := rfl

theorem plain_of_joined (h : IsPlainLetter (joined d)) : d.toNat < 128 ∧ d ≠ 'k' := by
  unfold joined at h
  split at h
  · next hd => rcases hd with rfl | rfl <;> decide
  · exact ⟨h.ascii, h.ne_k⟩

theorem eq_joined_toLower_iff {e : Char} (he : IsPlainLetter e ∧ e ≠ '-' ∧ e ≠ ' ') (c : Char) :
    e = joined c.toLower ↔ Accepts e c := by
  obtain ⟨hplain, hhyphen, hspace⟩ := he
  rw [eq_comm, Accepts]
  by_cases hunderscore : e = '_'
  · subst hunderscore
    have hstays : ∀ d, isCaseless d = true → (c.toLower = d ↔ c = d) := fun d => toLower_eq_iff
    rw [if_pos rfl, joined_eq_underscore_iff, hstays '_' (by decide), hstays '-' (by decide),
      hstays ' ' (by decide)]
    simp
  · rw [if_neg hunderscore, joined_eq_iff ⟨hunderscore, hhyphen, hspace⟩, SameLetter, hplain.small,
      eq_comm]

/-- A name is compared in lower case, and nothing but its spellings is lowered to it. -/
theorem normalize_eq_iff (a : Archetype) (name : String) :
    normalize name = a.name.toList ↔ a.IsSpelling (trim name.toList) := by
  have hplain : ∀ e ∈ a.name.toList, IsPlainLetter e := fun e he => (a.isPlainLetter_name e he).1
  rw [normalize_eq, map_lowercase_eq_iff (fun d => plain_of_joined) hplain, IsSpelling]
  exact forall₂_congr fun e he => eq_joined_toLower_iff (a.isPlainLetter_name e he)

/-- A name is a spelling of itself, and there is nothing to trim. -/
theorem isSpelling_name (a : Archetype) : a.IsSpelling (trim a.name.toList) := by
  have htrim : trim a.name.toList = a.name.toList := by cases a <;> decide
  have hself : ∀ e, Accepts e e := by
    intro e
    unfold Accepts
    split
    · next he => simp [he]
    · rfl
  rw [htrim, IsSpelling, List.forall₂_same]
  exact fun e _ => hself e

/-- No two archetypes have one name. -/
theorem find?_name (a : Archetype) :
    (all.find? fun b => b.name.toList = a.name.toList) = some a := by
  cases a <;> decide

theorem ofName?_eq_some_iff {name : String} {a : Archetype} :
    ofName? name = some a ↔ a.IsSpelling (trim name.toList) := by
  rw [← normalize_eq_iff]
  constructor
  · intro h
    simpa [eq_comm] using List.find?_some h
  · intro h
    rw [ofName?, h]
    exact a.find?_name

theorem parse_iff_isSpelling (name : String) (a : Archetype) :
    parse name = .ok a ↔ a.IsSpelling (trim name.toList) := by
  rw [parse_eq_ok_iff, ofName?_eq_some_iff]

/-- The error has the name as it was given. -/
theorem parse_eq_error_iff (name : String) (e : NameError) :
    parse name = .error e ↔ e = .unknownArchetype name ∧ ∀ a, parse name ≠ .ok a := by
  unfold parse
  cases ofName? name <;> simp [eq_comm]

end Archetype

/-! ### Targets -/

namespace Target

/-- The text is the name of the target, or one of its other names, up to the case of letters. -/
def IsSpelling (t : Target) (text : List Char) : Prop :=
  ∃ spelling, (spelling = t.name ∨ t = .nextjs ∧ (spelling = "next" ∨ spelling = "next.js")) ∧
    List.Forall₂ SameLetter spelling.toList text

theorem mem_names_iff (t : Target) (spelling : String) :
    spelling ∈ t.name :: t.aliases ↔
      spelling = t.name ∨ t = .nextjs ∧ (spelling = "next" ∨ spelling = "next.js") := by
  cases t <;> simp [aliases]

theorem isPlainLetter_names (t : Target) :
    ∀ spelling ∈ t.name :: t.aliases, ∀ e ∈ spelling.toList, IsPlainLetter e := by
  have hall : ((t.name :: t.aliases).all fun spelling =>
      spelling.toList.all fun e => IsPlainLetter e) = true := by
    cases t <;> decide
  intro spelling hmem e he
  exact of_decide_eq_true (List.all_eq_true.mp (List.all_eq_true.mp hall spelling hmem) e he)

theorem lowercase_eq_iff (t : Target) {spelling : String} (h : spelling ∈ t.name :: t.aliases)
    (cs : List Char) :
    lowercase cs = spelling.toList ↔ List.Forall₂ SameLetter spelling.toList cs := by
  have hplain := t.isPlainLetter_names spelling h
  have hmap : (lowercase cs).map id = spelling.toList ↔ _ :=
    map_lowercase_eq_iff (fun _ hd => ⟨hd.ascii, hd.ne_k⟩) hplain
  rw [List.map_id] at hmap
  rw [hmap]
  apply forall₂_congr
  intro e he c
  rw [SameLetter, (hplain e he).small, id_eq]

/-- No name stands for two targets. -/
theorem find?_names (t : Target) :
    ∀ spelling ∈ t.name :: t.aliases,
      (all.find? fun u => (u.name :: u.aliases).any (·.toList = spelling.toList)) = some t := by
  cases t <;> decide

theorem ofName?_eq_some_iff {name : String} {t : Target} :
    ofName? name = some t ↔
      ∃ spelling ∈ t.name :: t.aliases, lowercase (trim name.toList) = spelling.toList := by
  constructor
  · intro h
    rw [ofName?, List.find?_eq_some_iff_append] at h
    obtain ⟨hany, -⟩ := h
    obtain ⟨spelling, hmem, heq⟩ := List.any_eq_true.mp hany
    exact ⟨spelling, hmem, (of_decide_eq_true heq).symm⟩
  · rintro ⟨spelling, hmem, heq⟩
    rw [ofName?, heq]
    exact t.find?_names spelling hmem

theorem parse_iff_isSpelling (name : String) (t : Target) :
    parse name = .ok t ↔ t.IsSpelling (trim name.toList) := by
  rw [parse_eq_ok_iff, ofName?_eq_some_iff, IsSpelling]
  constructor
  · rintro ⟨spelling, hmem, heq⟩
    exact ⟨spelling, (t.mem_names_iff spelling).mp hmem, (t.lowercase_eq_iff hmem _).mp heq⟩
  · rintro ⟨spelling, hnames, hsame⟩
    have hmem := (t.mem_names_iff spelling).mpr hnames
    exact ⟨spelling, hmem, (t.lowercase_eq_iff hmem _).mpr hsame⟩

/-- The error has the name as it was given. -/
theorem parse_eq_error_iff (name : String) (e : NameError) :
    parse name = .error e ↔ e = .unknownTarget name ∧ ∀ t, parse name ≠ .ok t := by
  unfold parse
  cases ofName? name <;> simp [eq_comm]

end Target

/-! ### Names of callers -/

namespace ArchetypeName

theorem parse_eq_known_iff {name : String} {a : Archetype} :
    parse name = .known a ↔ Archetype.parse name = .ok a := by
  constructor
  · intro h
    by_contra hne
    have hother : ∀ b, Archetype.parse name ≠ .ok b := by
      intro b hb
      rw [parse_of_ok hb, known.injEq] at h
      exact hne (h ▸ hb)
    rw [parse_of_ne_ok hother] at h
    cases h
  · exact parse_of_ok

theorem parse_eq_unknown_iff {name text : String} :
    parse name = .unknown text ↔
      text = String.ofList (trim name.toList) ∧ ∀ a, Archetype.parse name ≠ .ok a := by
  constructor
  · intro h
    have hnone : ∀ a, Archetype.parse name ≠ .ok a := by
      intro a ha
      rw [parse_of_ok ha] at h
      cases h
    rw [parse_of_ne_ok hnone, unknown.injEq] at h
    exact ⟨h.symm, hnone⟩
  · rintro ⟨rfl, hnone⟩
    exact parse_of_ne_ok hnone

/-- The text of a name stands for it: nothing is known by a trimmed name that was not by the name
itself. -/
theorem parse_text (name : String) : parse (parse name).text = parse name := by
  cases hname : parse name with
  | known a => exact parse_of_ok ((Archetype.parse_iff_isSpelling _ a).mpr a.isSpelling_name)
  | unknown text =>
    obtain ⟨rfl, hnone⟩ := parse_eq_unknown_iff.mp hname
    rw [text, parse_eq_unknown_iff, String.toList_ofList, trim_trim]
    refine ⟨rfl, fun a ha => hnone a ?_⟩
    rwa [Archetype.parse_eq_ok_iff, Archetype.ofName?_trim, ← Archetype.parse_eq_ok_iff] at ha

end ArchetypeName

/-- What names stand for: a trimmed name is accepted just when it is spelled like the one it stands
for, and else it is refused as it was given. A caller's own name is kept, trimmed, and parsing it
again leads to the same. -/
theorem names_accepted (name : String) :
    let given := trim name.toList
    (∀ a, Archetype.parse name = .ok a ↔ a.IsSpelling given) ∧
    (∀ t, Target.parse name = .ok t ↔ t.IsSpelling given) ∧
    (∀ e, Archetype.parse name = .error e ↔
      e = .unknownArchetype name ∧ ∀ a : Archetype, ¬a.IsSpelling given) ∧
    (∀ e, Target.parse name = .error e ↔
      e = .unknownTarget name ∧ ∀ t : Target, ¬t.IsSpelling given) ∧
    (∀ a, ArchetypeName.parse name = .known a ↔ Archetype.parse name = .ok a) ∧
    (∀ text, ArchetypeName.parse name = .unknown text ↔
      text = String.ofList given ∧ ∀ a, Archetype.parse name ≠ .ok a) ∧
    ArchetypeName.parse (ArchetypeName.parse name).text = ArchetypeName.parse name := by
  intro given
  have harchetype := Archetype.parse_iff_isSpelling name
  have htarget := Target.parse_iff_isSpelling name
  refine ⟨harchetype, htarget, ?_, ?_, fun a => ArchetypeName.parse_eq_known_iff,
    fun text => ArchetypeName.parse_eq_unknown_iff, ArchetypeName.parse_text name⟩
  · intro e
    rw [Archetype.parse_eq_error_iff]
    simp only [ne_eq, harchetype, given]
  · intro e
    rw [Target.parse_eq_error_iff]
    simp only [ne_eq, htarget, given]

/-- Words may be joined in several ways, but not by more than one space. -/
example : Archetype.blogList.IsSpelling "blog-LIST".toList ∧
    ¬Archetype.authLogin.IsSpelling "Auth  Login".toList := by decide

end Scaffold
