import Scaffold.Proofs.Assembly.Selector

/-!
# Signs that are escaped

An escaped text is read back as the text it was made from. Read from the places of its signs, this
says that a backslash stands in front of each backquote and each placeholder, and that it is one
which no other backslash takes: their number is odd. Whatever a literal is read over has its signs
escaped in this way (`exists_inside_of_readLiteral`), so an escaped text has.
-/

namespace Scaffold

variable {pattern unit cs value after : List Char} {c : Char}

/-- Wherever the pattern stands, the number of backslashes right in front of it is odd, so that the
last of them takes the character with which it starts. -/
def Escapes (pattern cs : List Char) : Prop :=
  ∀ front, front ++ pattern <+: cs → slashesAtEnd front % 2 = 1

/-! ### Backslashes in pairs -/

/-- Behind a text whose backslashes at the end go in pairs, they are counted anew. -/
theorem slashesAtEnd_append (hunit : slashesAtEnd unit % 2 = 0) (front : List Char) :
    slashesAtEnd (unit ++ front) % 2 = slashesAtEnd front % 2 := by
  induction front using List.reverseRecOn with
  | nil => rw [List.append_nil, hunit]; rfl
  | append_singleton front c ih =>
    rw [← List.append_assoc, slashesAtEnd_concat, slashesAtEnd_concat]
    split
    · omega
    · rfl

theorem slashesAtEnd_singleton (hc : c ≠ '\\') : slashesAtEnd [c] = 0 := by
  simpa [hc] using slashesAtEnd_concat [] c

/-- A backslash and the character that it takes leave nothing escaped behind them. -/
theorem slashesAtEnd_pair (c : Char) : slashesAtEnd ['\\', c] % 2 = 0 := by
  have hpair := slashesAtEnd_concat ['\\'] c
  have hslash : slashesAtEnd ['\\'] = 1 := by decide
  rw [List.singleton_append, hslash] at hpair
  rw [hpair]
  split <;> rfl

/-- Signs stay escaped when a text is put in front, as long as those that start in it are. -/
theorem Escapes.append (hunit : slashesAtEnd unit % 2 = 0) (h : Escapes pattern cs)
    (hwithin : ∀ front, front.length < unit.length → front ++ pattern <+: unit ++ cs →
      slashesAtEnd front % 2 = 1) :
    Escapes pattern (unit ++ cs) := by
  intro front hfront
  by_cases hshort : front.length < unit.length
  · exact hwithin front hshort hfront
  · obtain ⟨back, rfl⟩ : unit <+: front :=
      List.prefix_of_prefix_length_le (List.prefix_append unit cs)
        ((List.prefix_append front pattern).trans hfront) (Nat.le_of_not_lt hshort)
    rw [List.append_assoc, List.prefix_append_right_inj] at hfront
    rw [slashesAtEnd_append hunit]
    exact h back hfront

theorem Escapes.nil (hne : pattern ≠ []) : Escapes pattern [] := by
  intro front hfront
  exact absurd (List.append_eq_nil_iff.mp (List.prefix_nil.mp hfront)).2 hne

/-- What a backslash takes may be the start of the pattern. -/
theorem Escapes.pair (hstart : ¬['\\'] <+: pattern) (hne : pattern ≠ []) (h : Escapes pattern cs)
    (c : Char) : Escapes pattern ('\\' :: c :: cs) := by
  refine Escapes.append (slashesAtEnd_pair c) h fun front hshort hfront => ?_
  obtain ⟨d, more, rfl⟩ := List.exists_cons_of_ne_nil hne
  match front, hshort with
  | [], _ =>
    -- the pattern starts with no backslash
    have hd : d = '\\' := (List.cons_prefix_cons.mp hfront).1
    exact absurd (hd ▸ List.prefix_append ['\\'] more) hstart
  | [e], _ =>
    have he : e = '\\' := (List.cons_prefix_cons.mp hfront).1
    rw [he]
    decide

theorem Escapes.cons (hc : c ≠ '\\') (h : Escapes pattern cs) (hstart : ¬pattern <+: c :: cs) :
    Escapes pattern (c :: cs) := by
  have hunit : slashesAtEnd [c] % 2 = 0 := by rw [slashesAtEnd_singleton hc]
  refine Escapes.append hunit h fun front hshort hfront => ?_
  obtain rfl : front = [] := List.eq_nil_of_length_eq_zero (Nat.lt_one_iff.mp hshort)
  exact absurd hfront hstart

/-! ### The inside of a literal -/

/-- A literal ends at the first backquote that is not escaped, and no placeholder opens in it. -/
theorem exists_inside_of_readLiteral (h : readLiteral cs = some (value, after)) :
    ∃ inside, cs = inside ++ '\x60' :: after ∧
      Escapes ['\x60'] inside ∧ Escapes ['$', '\x7b'] inside := by
  fun_induction readLiteral cs generalizing value with
  | case1 => cases h
  | case2 rest =>
    obtain ⟨rfl, rfl⟩ := Prod.mk.inj (Option.some.inj h)
    exact ⟨[], rfl, .nil (by simp), .nil (by simp)⟩
  | case3 => cases h
  | case4 c rest ih =>
    obtain ⟨⟨text, left⟩, hrest, heq⟩ := Option.map_eq_some_iff.mp h
    cases heq
    obtain ⟨inside, rfl, hquotes, hopens⟩ := ih hrest
    exact ⟨'\\' :: c :: inside, rfl, hquotes.pair (by simp) (by simp) c,
      hopens.pair (by simp) (by simp) c⟩
  | case5 => cases h
  | case6 c rest hquote hslash hlast hopen ih =>
    obtain ⟨⟨text, left⟩, hrest, heq⟩ := Option.map_eq_some_iff.mp h
    cases heq
    obtain ⟨inside, rfl, hquotes, hopens⟩ := ih hrest
    have hc : c ≠ '\\' := by
      intro hc
      have hne : inside ++ '\x60' :: after ≠ [] := by simp
      obtain ⟨d, more, hcons⟩ := List.exists_cons_of_ne_nil hne
      exact hlast d more hc hcons
    refine ⟨c :: inside, rfl, hquotes.cons hc ?_, hopens.cons hc ?_⟩
    · exact fun hp => hquote (List.cons_prefix_cons.mp hp).1.symm
    · rintro ⟨more, heq⟩
      obtain ⟨rfl, rfl⟩ := List.cons.inj heq
      exact hopen _ rfl rfl

/-- Reading undoes the escape, so that no two texts are escaped alike. In an escaped text every
backquote and every start of a placeholder has its backslash. -/
theorem escapeLiteral_undone :
    (∀ cs after, readLiteral (escapeLiteral cs ++ '\x60' :: after) = some (cs, after)) ∧
    (∀ cs, Escapes ['\x60'] (escapeLiteral cs) ∧ Escapes ['$', '\x7b'] (escapeLiteral cs)) ∧
    Function.Injective escapeLiteral := by
  refine ⟨readLiteral_escapeLiteral, ?_, ?_⟩
  · intro cs
    obtain ⟨inside, heq, hescapes⟩ :=
      exists_inside_of_readLiteral (readLiteral_escapeLiteral cs [])
    rwa [List.append_cancel_right heq]
  · intro cs other heq
    have hread := readLiteral_escapeLiteral cs []
    rw [heq, readLiteral_escapeLiteral other []] at hread
    exact (Prod.mk.inj (Option.some.inj hread)).1.symm

/-- A backslash in front of a placeholder is doubled, and the placeholder has a third one. -/
example : escapeLiteral "\\$\x7bx\x7d".toList = "\\\\\\$\x7bx\x7d".toList ∧
    ¬Escapes ['$', '\x7b'] "\\\\$\x7bx\x7d".toList := by
  refine ⟨by decide, fun h => ?_⟩
  exact absurd (h ['\\', '\\'] (by decide)) (by decide)

end Scaffold
