import Scaffold.Proofs.Respelling.Printed

/-!
# Comments that stay comments

A comment of the HTML dialect ends at the first sign that closes one. The text of a comment is
written as it is, so it is all inside just when it has no such sign. A neutral comment is respelled
by respelling its text (`respell_commentText`), and there a sign that closes can also come about:
the sign that opens a neutral comment leaves two hyphens at its end, for which the rest of the text
may have an angle bracket.
-/

namespace Scaffold

open Text

variable {cs : List Char}

/-! ### One comment -/

/-- The text opens a comment, and the first sign behind this that closes one is at its end. -/
def IsOneComment (cs : List Char) : Prop :=
  ∃ inside, cs = "<!--".toList ++ inside ++ "-->".toList ∧
    ∀ front, front ++ "-->".toList <+: inside ++ "-->".toList → front = inside

/-- A pattern that is put behind a character it does not contain is the first of its kind there when
it does not stand in front. -/
theorem first_iff_not_infix {pattern : List Char} {c : Char} (hc : c ∉ pattern)
    (part : List Char) :
    (∀ front, front ++ pattern <+: part ++ [c] ++ pattern → front = part ++ [c]) ↔
      ¬pattern <:+: part := by
  constructor
  · rintro hfirst ⟨front, back, rfl⟩
    have heq := hfirst front ⟨back ++ [c] ++ pattern, by simp⟩
    have hlength := congrArg List.length heq
    simp only [List.length_append, List.length_singleton] at hlength
    omega
  · intro hpart front hfront
    have hwhole : front <+: part ++ [c] ++ pattern := (List.prefix_append _ _).trans hfront
    have hlength := hfront.length_le
    rw [List.length_append, List.length_append] at hlength
    rcases Nat.lt_or_ge part.length front.length with hlong | hshort
    · refine (List.prefix_of_prefix_length_le hwhole (List.prefix_append _ _) ?_).eq_of_length ?_
      · omega
      · rw [List.length_append, List.length_singleton] at hlength ⊢
        omega
    · -- then the pattern starts within the part, and cannot go on past the character
      obtain ⟨back, rfl⟩ : front <+: part := by
        rw [List.append_assoc] at hwhole
        exact List.prefix_of_prefix_length_le hwhole (List.prefix_append _ _) hshort
      simp only [List.append_assoc, List.prefix_append_right_inj] at hfront
      rcases ends_or_runs_over hfront with hin | ⟨more, hne, heq, hmore⟩
      · exact absurd (hin.isInfix.trans (List.suffix_append front back).isInfix) hpart
      · obtain ⟨d, more, rfl⟩ := List.exists_cons_of_ne_nil hne
        have hd : d = c := (List.cons_prefix_cons.mp hmore).1
        exact absurd (by rw [heq, hd]; simp) hc

theorem isOneComment_commentText_iff (text : String) :
    IsOneComment (commentText .html text).toList ↔ ¬"-->".toList <:+: text.toList := by
  have hclose : ' ' ∉ "-->".toList := by decide
  have hwhole : (commentText .html text).toList =
      "<!--".toList ++ (' ' :: text.toList ++ [' ']) ++ "-->".toList := by
    simp [commentText]
  have hblank : "-->".toList <:+: ' ' :: text.toList ↔ "-->".toList <:+: text.toList := by
    simp [List.infix_cons_iff]
  rw [← hblank, ← first_iff_not_infix hclose, IsOneComment, hwhole]
  constructor
  · rintro ⟨inside, heq, hfirst⟩
    rw [List.append_cancel_left (List.append_cancel_right heq)]
    exact hfirst
  · exact fun hfirst => ⟨_, rfl, hfirst⟩

/-! ### Respelled comments -/

/-- The blanks around the text keep it apart from the signs of its comment. -/
theorem respell_commentText (text : String) :
    Dialect.html.respell (commentText .jsx text) =
      commentText .html (Dialect.html.respell text) := by
  have hopen : Respells "\x7b/* ".toList "<!-- ".toList :=
    (Respells.rule (r := ⟨"\x7b/*", "<!--"⟩) (by decide)).append (.self (u := [' ']) (by decide))
  have hclose : Respells " */\x7d".toList " -->".toList :=
    (Respells.self (u := [' ']) (by decide)).append (.rule (r := ⟨"*/\x7d", "-->"⟩) (by decide))
  have hwhole : (commentText .jsx text).toList =
      "\x7b/* ".toList ++ (text.toList ++ ' ' :: "*/\x7d".toList) := by
    simp [commentText]
  have hblank : Cuts htmlSpellings ' ' := by decide
  have hrest := hclose []
  rw [List.append_nil, onePass_nil, List.append_nil] at hrest
  have hsplit := htmlSpellings_orderly.onePass_append_cons hblank text.toList "*/\x7d".toList
  rw [← String.toList_inj, toList_respell, hwhole, hopen, hsplit]
  have hend : onePass htmlSpellings (' ' :: "*/\x7d".toList) = " -->".toList := hrest
  rw [hend]
  simp [commentText, toList_respell]

/-- What turns into a sign that closes a comment. -/
def closings : List (List Char) :=
  ["-->".toList, "\x7b/*>".toList, "\x7b/*->".toList]

theorem infix_onePass_of_closing {p : List Char} (hp : p ∈ closings) (h : p <:+: cs) :
    "-->".toList <:+: onePass htmlSpellings cs := by
  have hopen : Respells "\x7b/*".toList "<!--".toList := .rule (r := ⟨_, _⟩) (by decide)
  have hclosing : ∃ c rest p', p = c :: rest ∧ Cuts htmlSpellings c ∧ Respells p p' ∧
      "-->".toList <:+: p' := by
    simp only [closings, List.mem_cons, List.not_mem_nil, or_false] at hp
    rcases hp with rfl | rfl | rfl
    · exact ⟨_, _, _, rfl, by decide, .self (by decide), List.infix_rfl⟩
    · exact ⟨_, _, _, rfl, by decide, hopen.append (.self (u := ['>']) (by decide)), by decide⟩
    · exact ⟨_, _, _, rfl, by decide, hopen.append (.self (u := ['-', '>']) (by decide)),
        by decide⟩
  obtain ⟨c, rest, p', rfl, hcuts, hrespells, hin⟩ := hclosing
  obtain ⟨front, back, rfl⟩ := h
  have hsplit := htmlSpellings_orderly.onePass_append_cons hcuts front (rest ++ back)
  rw [List.append_assoc, List.cons_append, hsplit, ← List.cons_append, hrespells]
  exact (hin.trans (List.prefix_append _ _).isInfix).trans (List.suffix_append _ _).isInfix

/-- What could go on behind the sign that opens a comment stood there before the pass. -/
theorem prefix_of_prefix_onePass_closing {part : List Char} (hpart : part ∈ [['>'], ['-', '>']])
    (h : part <+: onePass htmlSpellings cs) : part <+: cs := by
  have hall : ∀ part ∈ [['>'], ['-', '>']], ∀ r ∈ htmlSpellings,
      StartsNowhereIn r.spelling.toList part := by decide
  exact prefix_of_prefix_onePass (hall part hpart) h

/-- The hyphens of the sign that opens a comment may be the first two of one that closes it. -/
theorem infix_opening_iff :
    "-->".toList <:+: "<!--".toList ++ cs ↔
      ['>'] <+: cs ∨ ['-', '>'] <+: cs ∨ "-->".toList <:+: cs := by
  simp [List.infix_cons_iff]

/-- A text without the sign that closes a neutral comment has a sign that closes one after it is
respelled just when it had one before, or had the rest of one behind a sign that opens. -/
theorem infix_onePass_iff (h : ¬"*/".toList <:+: cs) :
    "-->".toList <:+: onePass htmlSpellings cs ↔ ∃ p ∈ closings, p <:+: cs := by
  constructor
  · intro hin
    have hspellings : ∀ r ∈ htmlSpellings, StartsNowhereIn "-->".toList r.spelling.toList ∨
        "*/".toList <+: r.keyword.toList ∨ r = ⟨"\x7b/*", "<!--"⟩ := by decide
    induction cs using htmlSpellings_orderly.pass_induction with
    | nil => exact absurd hin (by decide)
    | keyword r hr rest ih =>
      have hmore : rest <:+: r.keyword.toList ++ rest := (List.suffix_append _ rest).isInfix
      have hrest : "-->".toList <:+: onePass htmlSpellings rest →
          ∃ p ∈ closings, p <:+: r.keyword.toList ++ rest := by
        intro hin
        obtain ⟨p, hp, hin⟩ := ih (fun hclose => h (hclose.trans hmore)) hin
        exact ⟨p, hp, hin.trans hmore⟩
      rw [htmlSpellings_orderly.onePass_keyword_append hr] at hin
      rcases hspellings r hr with hnowhere | hcloses | rfl
      · exact hrest (infix_of_infix_append hnowhere hin)
      · exact absurd (hcloses.trans (List.prefix_append _ rest)).isInfix h
      · -- the hyphens of the sign that opens may be the first two
        rw [infix_opening_iff] at hin
        rcases hin with hp | hp | hin
        · have hrest : ['>'] <+: rest := prefix_of_prefix_onePass_closing (by decide) hp
          exact ⟨_, by decide, ((List.prefix_append_right_inj _).mpr hrest).isInfix⟩
        · have hrest : ['-', '>'] <+: rest := prefix_of_prefix_onePass_closing (by decide) hp
          exact ⟨_, by decide, ((List.prefix_append_right_inj _).mpr hrest).isInfix⟩
        · exact hrest hin
    | char c rest hstarts ih =>
      have hmore : rest <:+: c :: rest := (List.suffix_cons c rest).isInfix
      rw [onePass_cons hstarts, List.infix_cons_iff] at hin
      rcases hin with hp | hin
      · have hsign : "-->".toList = '-' :: ['-', '>'] := by decide
        rw [hsign, List.cons_prefix_cons] at hp
        obtain ⟨rfl, hp⟩ := hp
        have hrest : ['-', '>'] <+: rest := prefix_of_prefix_onePass_closing (by decide) hp
        exact ⟨_, by decide, (List.cons_prefix_cons.mpr ⟨rfl, hrest⟩).isInfix⟩
      · obtain ⟨p, hp, hin⟩ := ih (fun hclose => h (hclose.trans hmore)) hin
        exact ⟨p, hp, hin.trans hmore⟩
  · rintro ⟨p, hp, hin⟩
    exact infix_onePass_of_closing hp hin

/-! ### Both ways to a comment -/

/-- A comment is printed as one comment just when its text has no sign that closes one. A neutral
comment that is complete is respelled to one comment just when, moreover, no sign that opens one has
the rest of a sign that closes one right behind it. -/
theorem isOneComment_iff (text : String) :
    (IsOneComment (commentText .html text).toList ↔ ¬"-->".toList <:+: text.toList) ∧
    (¬"*/".toList <:+: text.toList →
      (IsOneComment (Dialect.html.respell (commentText .jsx text)).toList ↔
        ∀ p ∈ closings, ¬p <:+: text.toList)) := by
  refine ⟨isOneComment_commentText_iff text, fun h => ?_⟩
  rw [respell_commentText, isOneComment_commentText_iff, toList_respell, infix_onePass_iff h]
  simp

/-- Hyphens, angle brackets and signs that open a comment do no harm apart. -/
theorem isOneComment_iff_hyphens :
    let text := "a -- > b \x7b/* c -"
    ¬"*/".toList <:+: text.toList ∧
      IsOneComment (commentText .html text).toList ∧
      IsOneComment (Dialect.html.respell (commentText .jsx text)).toList := by
  intro text
  have hcomplete : ¬"*/".toList <:+: text.toList := by decide
  obtain ⟨hprinted, hrespelled⟩ := isOneComment_iff text
  exact ⟨hcomplete, hprinted.mpr (by decide), (hrespelled hcomplete).mpr (by decide)⟩

/-- An arrow closes the comment that it stands in. -/
theorem not_forall_isOneComment :
    ¬∀ text : String, ¬"*/".toList <:+: text.toList →
      IsOneComment (Dialect.html.respell (commentText .jsx text)).toList ∧
        IsOneComment (commentText .html text).toList := by
  intro h
  have hprinted := (h "a --> b" (by decide)).2
  rw [isOneComment_commentText_iff] at hprinted
  exact hprinted (by decide)

end Scaffold
