import Scaffold.Markup.Rule
import Scaffold.Proofs.Text.Occurrence

/-!
# Rules in sequence and in one pass

`Dialect.respell` runs the rules one after the other, each over what the rules before it left.
`onePass` runs them at once: it walks over the text from left to right, and where a keyword starts
it writes the spelling and goes on behind the keyword. The two agree,

    (rules.foldl (fun cs rule => rule.respell cs) cs) = onePass rules cs,

for rules that are `Orderly`: no spelling holds or touches the start of a keyword, and no keyword
starts inside that of a later rule. Both are facts about finitely many short texts, so the rules of
a dialect are checked by evaluation.
-/

namespace Scaffold

open Text

/-- `onePass` behind `skip` characters that belong to a keyword already replaced. -/
def onePassFrom (rules : List Rule) : Nat → List Char → List Char
  | _, [] => []
  | skip + 1, _ :: rest => onePassFrom rules skip rest
  | 0, c :: rest =>
    match rules.find? fun rule => rule.keyword.toList.isPrefixOf (c :: rest) with
    | some rule => rule.spelling.toList ++ onePassFrom rules (rule.keyword.toList.length - 1) rest
    | none => c :: onePassFrom rules 0 rest

/-- One pass over the text: whichever keyword starts at a place is replaced by its spelling and
skipped, and any other character is copied. -/
def onePass (rules : List Rule) (cs : List Char) : List Char := onePassFrom rules 0 cs

/-- None of the keywords occurs in the text. -/
def KeywordFree (rules : List Rule) (cs : List Char) : Prop :=
  ∀ rule ∈ rules, ¬ rule.keyword.toList <:+: cs

instance (rules : List Rule) (cs : List Char) : Decidable (KeywordFree rules cs) :=
  inferInstanceAs (Decidable (∀ rule ∈ rules, ¬ rule.keyword.toList <:+: cs))

/-- No keyword has the character behind its first, so none that starts in front of it goes on with
it. -/
def Cuts (rules : List Rule) (c : Char) : Prop := ∀ rule ∈ rules, c ∉ rule.keyword.toList.tail

instance (rules : List Rule) (c : Char) : Decidable (Cuts rules c) :=
  inferInstanceAs (Decidable (∀ rule ∈ rules, c ∉ rule.keyword.toList.tail))

/-- What `r` writes neither holds the start of an occurrence of the keyword of `q` nor continues
one. -/
def Rule.LeavesAlone (r q : Rule) : Prop :=
  StartsNowhereIn q.keyword.toList r.spelling.toList ∧
    StartsNowhereIn r.spelling.toList q.keyword.toList

instance (r q : Rule) : Decidable (r.LeavesAlone q) := inferInstanceAs (Decidable (_ ∧ _))

/-- Rules that do not disturb one another. -/
structure Orderly (rules : List Rule) : Prop where
  keyword_ne_nil : ∀ r ∈ rules, r.keyword.toList ≠ []
  leavesAlone : ∀ r ∈ rules, ∀ q ∈ rules, r.LeavesAlone q
  startsNowhereIn_later :
    rules.Pairwise fun r q => StartsNowhereIn r.keyword.toList q.keyword.toList

theorem htmlSpellings_orderly : Orderly htmlSpellings := by
  constructor <;> decide

/-! ### One pass, step by step -/

section Steps

variable {rules : List Rule}

theorem onePassFrom_eq (skip : Nat) (cs : List Char) :
    onePassFrom rules skip cs = onePass rules (cs.drop skip) := by
  induction cs generalizing skip with
  | nil => simp [onePass, onePassFrom]
  | cons c rest ih =>
    cases skip with
    | zero => rfl
    | succ skip => simpa [onePassFrom] using ih skip

@[simp] theorem onePass_nil : onePass rules [] = [] := rfl

@[simp] theorem onePass_no_rules (cs : List Char) : onePass [] cs = cs := by
  induction cs with
  | nil => rfl
  | cons c rest ih => exact congrArg (c :: ·) ih

/-- A character at which no keyword starts is copied. -/
theorem onePass_cons {c : Char} {rest : List Char}
    (h : ∀ rule ∈ rules, ¬ rule.keyword.toList <+: c :: rest) :
    onePass rules (c :: rest) = c :: onePass rules rest := by
  have hfind : rules.find? (fun rule => rule.keyword.toList.isPrefixOf (c :: rest)) = none := by
    simpa [List.find?_eq_none, List.isPrefixOf_iff_prefix] using h
  simp only [onePass, onePassFrom, hfind]

/-- A text in which no keyword starts, whatever follows, is copied. -/
theorem onePass_append {part : List Char}
    (h : ∀ rule ∈ rules, StartsNowhereIn rule.keyword.toList part) (rest : List Char) :
    onePass rules (part ++ rest) = part ++ onePass rules rest := by
  induction part with
  | nil => rfl
  | cons c part ih =>
    have hc : ∀ rule ∈ rules, ¬ rule.keyword.toList <+: c :: (part ++ rest) := fun rule hr =>
      (h rule hr).not_isPrefix (List.cons_ne_nil c part) rest
    rw [List.cons_append, onePass_cons hc, ih fun rule hr => (h rule hr).tail, List.cons_append]

/-- What stands at the start of the result of a pass stood there before, unless it could run into a
spelling. -/
theorem prefix_of_prefix_onePass {pattern : List Char}
    (h : ∀ rule ∈ rules, StartsNowhereIn rule.spelling.toList pattern) {cs : List Char}
    (hp : pattern <+: onePass rules cs) : pattern <+: cs := by
  induction cs generalizing pattern with
  | nil => simpa using hp
  | cons c rest ih =>
    rcases pattern with - | ⟨p, pattern⟩
    · exact List.nil_prefix
    cases hfind : rules.find? fun rule => rule.keyword.toList.isPrefixOf (c :: rest) with
    | some rule =>
      have hmem := List.mem_of_find?_eq_some hfind
      have hspelling : rule.spelling.toList <+: onePass rules (c :: rest) := by
        simp only [onePass, onePassFrom, hfind]
        exact List.prefix_append _ _
      -- the result starts with the spelling as well, and the pattern cannot run into it
      exact absurd hp ((h rule hmem).not_isPrefix_both (List.cons_ne_nil p pattern) hspelling)
    | none =>
      have hstep : onePass rules (c :: rest) = c :: onePass rules rest := by
        simp only [onePass, onePassFrom, hfind]
      rw [hstep, List.cons_prefix_cons] at hp
      exact List.cons_prefix_cons.mpr ⟨hp.1, ih (fun r hr => (h r hr).tail) hp.2⟩

end Steps

namespace Orderly

variable {rules : List Rule} {r q : Rule}

theorem of_cons (h : Orderly (r :: rules)) : Orderly rules where
  keyword_ne_nil q hq := h.keyword_ne_nil q (List.mem_cons_of_mem r hq)
  leavesAlone q hq p hp := h.leavesAlone q (List.mem_cons_of_mem r hq) p (List.mem_cons_of_mem r hp)
  startsNowhereIn_later := (List.pairwise_cons.mp h.startsNowhereIn_later).2

theorem singleton (h : Orderly rules) (hr : r ∈ rules) : Orderly [r] where
  keyword_ne_nil q hq := by
    rw [List.mem_singleton.mp hq]
    exact h.keyword_ne_nil r hr
  leavesAlone q hq p hp := by
    rw [List.mem_singleton.mp hq, List.mem_singleton.mp hp]
    exact h.leavesAlone r hr r hr
  startsNowhereIn_later := List.pairwise_singleton _ r

/-- At most one keyword starts at a place. -/
theorem eq_of_isPrefix (h : Orderly rules) {cs : List Char} (hr : r ∈ rules) (hq : q ∈ rules)
    (hrp : r.keyword.toList <+: cs) (hqp : q.keyword.toList <+: cs) : r = q := by
  have hlater : rules.Pairwise fun a b =>
      a.keyword.toList <+: cs → b.keyword.toList <+: cs → a = b := by
    refine h.startsNowhereIn_later.imp_of_mem fun {a b} _ hb hab ha hb' => ?_
    exact absurd hb' (hab.not_isPrefix_both (h.keyword_ne_nil b hb) ha)
  have hearlier : rules.Pairwise fun a b =>
      b.keyword.toList <+: cs → a.keyword.toList <+: cs → b = a :=
    hlater.imp fun hab hb ha => (hab ha hb).symm
  exact List.Pairwise.forall_of_forall_of_flip (fun _ _ _ _ => rfl) hlater hearlier hr hq hrp hqp

/-- A keyword is replaced and skipped. -/
theorem onePass_keyword_append (h : Orderly rules) (hr : r ∈ rules) (rest : List Char) :
    onePass rules (r.keyword.toList ++ rest) = r.spelling.toList ++ onePass rules rest := by
  obtain ⟨c, keyword, hk⟩ := List.exists_cons_of_ne_nil (h.keyword_ne_nil r hr)
  have hstarts : r.keyword.toList <+: c :: (keyword ++ rest) := by
    rw [hk, ← List.cons_append]
    exact List.prefix_append _ rest
  have hfind : rules.find? (fun rule => rule.keyword.toList.isPrefixOf (c :: (keyword ++ rest)))
      = some r := by
    -- the search stops at some rule, and no other than `r` has its keyword here
    cases hfind : rules.find?
        fun rule => rule.keyword.toList.isPrefixOf (c :: (keyword ++ rest)) with
    | none =>
      have := List.find?_eq_none.mp hfind r hr
      exact absurd (List.isPrefixOf_iff_prefix.mpr hstarts) this
    | some q =>
      have hq := List.find?_some hfind
      rw [h.eq_of_isPrefix (List.mem_of_find?_eq_some hfind) hr
        (List.isPrefixOf_iff_prefix.mp hq) hstarts]
  have hdrop : (keyword ++ rest).drop (r.keyword.toList.length - 1) = rest := by
    simp [hk]
  rw [hk, List.cons_append, onePass, onePassFrom, hfind]
  simp only [onePassFrom_eq, hdrop]

/-- Induction along a pass: a text is empty, starts with a keyword, or starts with a character at
which no keyword does. -/
theorem pass_induction (h : Orderly rules) {motive : List Char → Prop} (nil : motive [])
    (keyword : ∀ r ∈ rules, ∀ rest, motive rest → motive (r.keyword.toList ++ rest))
    (char : ∀ c rest, (∀ r ∈ rules, ¬ r.keyword.toList <+: c :: rest) → motive rest →
      motive (c :: rest)) (cs : List Char) : motive cs := by
  induction hn : cs.length using Nat.strongRecOn generalizing cs with
  | _ n ih =>
    cases cs with
    | nil => exact nil
    | cons c rest =>
      by_cases hstarts : ∃ r ∈ rules, r.keyword.toList <+: c :: rest
      · obtain ⟨r, hr, after, heq⟩ := hstarts
        have hpos := List.length_pos_of_ne_nil (h.keyword_ne_nil r hr)
        rw [← heq]
        refine keyword r hr after (ih after.length ?_ after rfl)
        rw [← hn, ← heq, List.length_append]
        omega
      · push Not at hstarts
        refine char c rest hstarts (ih rest.length ?_ rest rfl)
        simp [← hn]

/-! ### One pass over two parts -/

/-- A pass goes part by part when the second starts with a character that no keyword has behind its
first. -/
theorem onePass_append_cons (h : Orderly rules) {c : Char} (hc : Cuts rules c)
    (part rest : List Char) :
    onePass rules (part ++ c :: rest) = onePass rules part ++ onePass rules (c :: rest) := by
  induction part using h.pass_induction with
  | nil => rfl
  | keyword r hr part ih =>
    rw [List.append_assoc, h.onePass_keyword_append hr, ih, h.onePass_keyword_append hr,
      List.append_assoc]
  | char d part hstarts ih =>
    have hstarts' : ∀ r ∈ rules, ¬ r.keyword.toList <+: d :: part ++ c :: rest := by
      intro r hr hp
      rcases ends_or_runs_over hp with hin | ⟨more, hne, heq, hmore⟩
      · exact hstarts r hr hin
      · -- a keyword that runs over would have `c` behind its first character
        obtain ⟨e, more, rfl⟩ := List.exists_cons_of_ne_nil hne
        rw [List.cons_prefix_cons] at hmore
        refine hc r hr ?_
        rw [heq, hmore.1]
        simp
    rw [List.cons_append] at hstarts' ⊢
    rw [onePass_cons hstarts', ih, onePass_cons hstarts, List.cons_append]

theorem spelling_ne_nil (h : Orderly rules) (hr : r ∈ rules) : r.spelling.toList ≠ [] := by
  intro heq
  have hruns := (h.leavesAlone r hr r hr).2
  have hempty := hruns.not_isPrefix (h.keyword_ne_nil r hr) []
  rw [heq] at hempty
  exact hempty List.nil_prefix

theorem onePass_eq_nil_iff (h : Orderly rules) {cs : List Char} :
    onePass rules cs = [] ↔ cs = [] := by
  constructor
  · induction cs using h.pass_induction with
    | nil => exact fun _ => rfl
    | keyword r hr rest _ =>
      rw [h.onePass_keyword_append hr]
      exact fun heq => absurd (List.append_eq_nil_iff.mp heq).1 (h.spelling_ne_nil hr)
    | char c rest hstarts _ => simp [onePass_cons hstarts]
  · rintro rfl
    rfl

/-- The result of a pass ends as the text did, or with a spelling. -/
theorem getLast?_onePass (h : Orderly rules) {d : Char} {cs : List Char}
    (hd : ∀ r ∈ rules, r.spelling.toList.getLast? ≠ some d)
    (hlast : (onePass rules cs).getLast? = some d) : cs.getLast? = some d := by
  induction cs using h.pass_induction with
  | nil => simp at hlast
  | keyword r hr rest ih =>
    rw [h.onePass_keyword_append hr, List.getLast?_append] at hlast
    rw [List.getLast?_append]
    cases hrest : (onePass rules rest).getLast? with
    | none =>
      rw [hrest] at hlast
      exact absurd hlast (hd r hr)
    | some e =>
      rw [hrest] at hlast ih
      rw [ih hlast]
      rfl
  | char c rest hstarts ih =>
    rw [onePass_cons hstarts] at hlast
    rcases eq_or_ne rest [] with rfl | hne
    · exact hlast
    · rw [List.getLast?_cons_of_ne_nil hne]
      rw [List.getLast?_cons_of_ne_nil (h.onePass_eq_nil_iff.not.mpr hne)] at hlast
      exact ih hlast

end Orderly

/-! ### In sequence -/

theorem Rule.respell_eq_onePass_singleton (r : Rule) (cs : List Char) :
    r.respell cs = onePass [r] cs := by
  have hfrom : ∀ skip, replaceFrom r.keyword.toList r.spelling.toList skip cs
      = onePassFrom [r] skip cs := by
    induction cs with
    | nil => intro skip; cases skip <;> rfl
    | cons c rest ih =>
      intro skip
      cases skip with
      | succ skip => exact ih skip
      | zero =>
        simp only [replaceFrom, onePassFrom, List.find?_singleton]
        split <;> simp [ih]
  exact hfrom 0

/-- One rule more in front: its pass goes before the pass of the others. -/
theorem onePass_onePass_singleton {r : Rule} {rules : List Rule} (h : Orderly (r :: rules))
    (cs : List Char) : onePass rules (onePass [r] cs) = onePass (r :: rules) cs := by
  have hrules := h.of_cons
  have hr := h.singleton List.mem_cons_self
  have hmem : ∀ q ∈ rules, q ∈ r :: rules := fun q hq => List.mem_cons_of_mem r hq
  -- the cases are those of the long pass; the first rule and the others are seen to take the same
  induction cs using h.pass_induction with
  | nil => rfl
  | keyword q hq rest ih =>
    rcases List.mem_cons.mp hq with rfl | hq'
    · rw [hr.onePass_keyword_append (List.mem_singleton_self q), h.onePass_keyword_append hq, ← ih]
      exact onePass_append (fun p hp => (h.leavesAlone q hq p (hmem p hp)).1) _
    · have hlater := (List.pairwise_cons.mp h.startsNowhereIn_later).1 q hq'
      rw [onePass_append (by simpa using hlater), hrules.onePass_keyword_append hq',
        h.onePass_keyword_append hq, ih]
  | char c rest hstarts ih =>
    have hfirst : onePass [r] (c :: rest) = c :: onePass [r] rest :=
      onePass_cons (by simpa using hstarts r List.mem_cons_self)
    rw [onePass_cons hstarts, ← ih, hfirst]
    -- a keyword that starts here after the first rule has run started here before
    refine onePass_cons fun q hq hp => hstarts q (hmem q hq) ?_
    rw [← hfirst] at hp
    refine prefix_of_prefix_onePass (fun p hp' => ?_) hp
    rw [List.mem_singleton.mp hp']
    exact (h.leavesAlone r List.mem_cons_self q (hmem q hq)).2

/-- Rules in sequence do what they do in one pass. -/
theorem foldl_respell_eq_onePass {rules : List Rule} (h : Orderly rules) (cs : List Char) :
    rules.foldl (fun cs rule => rule.respell cs) cs = onePass rules cs := by
  induction rules generalizing cs with
  | nil => exact (onePass_no_rules cs).symm
  | cons r rules ih =>
    rw [List.foldl_cons, ih h.of_cons, r.respell_eq_onePass_singleton, onePass_onePass_singleton h]

/-- A dialect's rules can be read as one pass, in which the keywords are found in the text as it was
written. -/
theorem respell_eq_onePass (markup : String) :
    Dialect.html.respell markup = String.ofList (onePass htmlSpellings markup.toList) :=
  congrArg String.ofList (foldl_respell_eq_onePass htmlSpellings_orderly markup.toList)

end Scaffold
