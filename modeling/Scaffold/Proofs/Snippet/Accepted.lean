import Scaffold.Proofs.Snippet.Runs

/-!
# Accepted snippets

A snippet that a store accepts holds its identifier for good: every other one with it is refused
from then on. The snippet itself is found again after any calls but one. The first call that makes
the store ready writes what is pending, and the last pending snippet with the same identifier takes
the place of the accepted one (`SnippetLog.lastWith_after`, `get?_accepted_iff`).
-/

namespace Scaffold

/-- The snippet that counts among several with one identifier. -/
def lastWith (id : String) (snippets : List Snippet) : Option Snippet :=
  (snippets.filter (·.id = id)).getLast?

theorem lastWith_append (id : String) (front back : List Snippet) :
    lastWith id (front ++ back) = (lastWith id back).or (lastWith id front) := by
  rw [lastWith, List.filter_append, List.getLast?_append]
  rfl

theorem lastWith_singleton_self (s : Snippet) : lastWith s.id [s] = some s := by
  simp [lastWith]

theorem lastWith_singleton_of_ne {id : String} {s : Snippet} (h : s.id ≠ id) :
    lastWith id [s] = none := by
  simp [lastWith, h]

namespace SnippetLog

variable {pending : List Snippet} {log : SnippetLog} {id : String}

theorem mem_ids_after (h : id ∈ log.written.map Snippet.id) (call : SnippetCall) :
    id ∈ (log.after pending call).written.map Snippet.id := by
  cases call with
  | insert s =>
    rw [after]
    split
    · exact h
    · rw [List.map_append]
      exact List.mem_append_left _ h
  | ready | generate =>
    rw [after]
    split
    · exact h
    · rw [List.map_append]
      exact List.mem_append_left _ h

/-- A call writes nothing under an identifier that is in use, unless it writes what is pending. -/
theorem lastWith_after (h : id ∈ log.written.map Snippet.id) (call : SnippetCall) :
    lastWith id (log.after pending call).written =
      if log.isReady = false ∧ call.makesReady = true then
        (lastWith id pending).or (lastWith id log.written)
      else lastWith id log.written := by
  cases call with
  | insert s =>
    have hmakes : ¬(log.isReady = false ∧ (SnippetCall.insert s).makesReady = true) := by
      simp [SnippetCall.makesReady]
    rw [after, if_neg hmakes]
    split
    · rfl
    · next hnew =>
      have hs : s.id ≠ id := by
        rintro rfl
        exact hnew h
      rw [lastWith_append, lastWith_singleton_of_ne hs, Option.none_or]
  | ready | generate =>
    cases hready : log.isReady with
    | true => simp [after, hready]
    | false =>
      rw [if_pos ⟨rfl, rfl⟩, after, hready, ← lastWith_append]
      rfl

theorem lastWith_foldl_after (h : id ∈ log.written.map Snippet.id) (calls : List SnippetCall) :
    lastWith id (calls.foldl (after pending) log).written =
      if log.isReady = false ∧ calls.any SnippetCall.makesReady = true then
        (lastWith id pending).or (lastWith id log.written)
      else lastWith id log.written := by
  induction calls generalizing log with
  | nil => simp
  | cons call rest ih =>
    rw [List.foldl_cons, ih (mem_ids_after h call), lastWith_after h, isReady_after, List.any_cons]
    -- what is pending is written by this call, by a later one, or by none of them
    cases hready : log.isReady <;> cases hmakes : call.makesReady <;> simp

/-- The log of calls with a snippet among them that is written. -/
theorem run_append_insert {before : List SnippetCall} {s : Snippet}
    (hnew : s.id ∉ (run pending before).written.map Snippet.id) (later : List SnippetCall) :
    run pending (before ++ .insert s :: later) =
      later.foldl (after pending)
        ⟨(run pending before).written ++ [s], before.any SnippetCall.makesReady⟩ := by
  rw [run, List.foldl_append, List.foldl_cons, ← run, after, if_neg hnew, isReady_run]

end SnippetLog

namespace SnippetStore

variable {pending : List Snippet} {before : List SnippetCall} {s : Snippet}
  {accepted : SnippetStore}

/-- A store accepts a snippet when nothing was written under its identifier. -/
theorem not_mem_ids_of_insert (h : (run pending before).insert s = .ok accepted) :
    s.id ∉ (SnippetLog.run pending before).written.map Snippet.id := by
  intro hmem
  rw [← List.mem_eraseDups, ← (follows_run pending before).index.keys_eq] at hmem
  rw [insert_eq, if_pos hmem] at h
  cases h

theorem foldl_after_of_insert (h : (run pending before).insert s = .ok accepted)
    (later : List SnippetCall) :
    later.foldl after accepted = run pending (before ++ .insert s :: later) := by
  have haccepted : (run pending before).after (.insert s) = accepted := by rw [after, h]
  rw [run, List.foldl_append, List.foldl_cons, ← run, haccepted]

/-- What is found under the identifier of an accepted snippet after further calls. -/
theorem get?_foldl_after_of_insert (h : (run pending before).insert s = .ok accepted)
    (later : List SnippetCall) :
    (later.foldl after accepted).get? s.id =
      if before.any SnippetCall.makesReady = false ∧ later.any SnippetCall.makesReady = true then
        (lastWith s.id pending).or (some s)
      else some s := by
  have hlog := SnippetLog.run_append_insert (not_mem_ids_of_insert h) later
  have hlast : lastWith s.id ((SnippetLog.run pending before).written ++ [s]) = some s := by
    rw [lastWith_append, lastWith_singleton_self, Option.some_or]
  have hmem : s.id ∈ ((SnippetLog.run pending before).written ++ [s]).map Snippet.id :=
    List.mem_map_of_mem (List.mem_append_right _ List.mem_cons_self)
  have hget := (follows_run pending (before ++ .insert s :: later)).index.lookup_eq s.id
  rw [foldl_after_of_insert h, get?, hget, ← lastWith, hlog, SnippetLog.lastWith_foldl_after hmem,
    hlast]

end SnippetStore

/-- An accepted snippet is found after any further calls, unless they make the store ready for the
first time and another snippet is pending under its identifier; then the last of these is found. A
snippet that comes later with the identifier is refused and replaces nothing. -/
theorem get?_accepted_iff (pending : List Snippet) (before later : List SnippetCall) {s : Snippet}
    {accepted : SnippetStore} (h : (SnippetStore.run pending before).insert s = .ok accepted) :
    let store := later.foldl SnippetStore.after accepted
    (store.get? s.id = some s ↔
      before.any SnippetCall.makesReady = true ∨ later.any SnippetCall.makesReady = false ∨
        ∀ t ∈ lastWith s.id pending, t = s) ∧
    (before.any SnippetCall.makesReady = false → later.any SnippetCall.makesReady = true →
      ∀ t ∈ lastWith s.id pending, store.get? s.id = some t) ∧
    ∀ t, t.id = s.id → store.insert t = .error ⟨s.id⟩ ∧ store.after (.insert t) = store := by
  intro store
  have hget := SnippetStore.get?_foldl_after_of_insert h later
  refine ⟨?_, ?_, ?_⟩
  · rw [hget]
    cases hbefore : before.any SnippetCall.makesReady with
    | true => simp
    | false =>
      cases hlater : later.any SnippetCall.makesReady with
      | false => simp
      | true => cases lastWith s.id pending <;> simp
  · intro hbefore hlater t ht
    rw [hget, if_pos ⟨hbefore, hlater⟩, Option.mem_def.mp ht, Option.some_or]
  · intro t ht
    have hsome : (store.get? s.id).isSome = true := by
      rw [hget]
      split
      · cases lastWith s.id pending <;> rfl
      · rfl
    have hrefused : store.insert t = .error ⟨s.id⟩ := by
      rw [SnippetStore.insert, ht]
      exact if_pos hsome
    exact ⟨hrefused, by rw [SnippetStore.after, hrefused]⟩

/-- A snippet that a pending one replaces, and one that comes when nothing is pending any more. -/
theorem get?_accepted_iff_hero :
    let early : Snippet := ⟨"hero", "marketing", [], "<p>1</p>"⟩
    let late : Snippet := ⟨"hero", "marketing", ["dark"], "<p>2</p>"⟩
    let form : Snippet := ⟨"form", "account", [], "<form />"⟩
    (∃ accepted, (SnippetStore.run [late] []).insert early = .ok accepted ∧
      accepted.ready.get? "hero" = some late ∧
      accepted.ready.insert early = .error ⟨"hero"⟩) ∧
    ∃ accepted, (SnippetStore.run [late] [.ready]).insert form = .ok accepted ∧
      accepted.ready.get? "form" = some form := by
  intro early late form
  constructor
  · have haccepted : (SnippetStore.run [late] []).insert early =
        .ok ⟨[late], [("hero", early)], false⟩ := rfl
    obtain ⟨-, hreplaced, hrefused⟩ := get?_accepted_iff [late] [] [.ready] haccepted
    exact ⟨_, haccepted, hreplaced rfl rfl late rfl, (hrefused early rfl).1⟩
  · have haccepted : (SnippetStore.run [late] [.ready]).insert form =
        .ok ⟨[], [("hero", late), ("form", form)], true⟩ := rfl
    obtain ⟨hkept, -, -⟩ := get?_accepted_iff [late] [.ready] [.ready] haccepted
    exact ⟨_, haccepted, hkept.mpr (.inl rfl)⟩

/-- Not every snippet that was accepted is found again. -/
theorem not_forall_get?_accepted :
    ¬ ∀ (pending : List Snippet) (before later : List SnippetCall) (s : Snippet)
        (accepted : SnippetStore), (SnippetStore.run pending before).insert s = .ok accepted →
      (later.foldl SnippetStore.after accepted).get? s.id = some s := by
  intro hkept
  have hlost := hkept [⟨"hero", "marketing", ["dark"], "<p>2</p>"⟩] [] [.ready]
    ⟨"hero", "marketing", [], "<p>1</p>"⟩ _ rfl
  exact absurd hlost (by decide)

end Scaffold
