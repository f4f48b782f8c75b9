import Scaffold.Generator
import Scaffold.Proofs.Generator.Results
import Scaffold.Proofs.Snippet.Index

/-!
# Runs of a snippet store

A store that is called again and again follows a log of the snippets that were written: those that
were accepted, and with the first call that makes it ready those that were pending. One call follows
the log (`Follows.after`), so a whole run does (`follows_run`), and whatever the store answers is
answered by the log.
-/

namespace Scaffold

/-- A call on a store. -/
inductive SnippetCall where
  | insert (s : Snippet)
  | ready
  | generate (g : Generator) (request : Request)

def SnippetCall.makesReady : SnippetCall → Bool
  | insert _ => false
  | ready | generate _ _ => true

/-! ### Stores and logs -/

namespace SnippetStore

/-- The store after a call. A snippet that is refused leaves it as it is. -/
def after (store : SnippetStore) : SnippetCall → SnippetStore
  | .insert s =>
    match store.insert s with
    | .ok store => store
    | .error _ => store
  | .ready => store.ready
  | .generate g request => (g.generateWith request store).1

def run (pending : List Snippet) (calls : List SnippetCall) : SnippetStore :=
  calls.foldl after (ofPending pending)

end SnippetStore

/-- The snippets that were written so far, in order, and whether the pending ones are among them. -/
structure SnippetLog where
  written : List Snippet := []
  isReady : Bool := false

namespace SnippetLog

/-- The log after a call: a snippet is written if no other one with its identifier was, and the
pending ones are written once. -/
def after (pending : List Snippet) (log : SnippetLog) : SnippetCall → SnippetLog
  | .insert s =>
    if s.id ∈ log.written.map Snippet.id then log else { log with written := log.written ++ [s] }
  | .ready | .generate _ _ => if log.isReady then log else ⟨log.written ++ pending, true⟩

def run (pending : List Snippet) (calls : List SnippetCall) : SnippetLog :=
  calls.foldl (after pending) {}

theorem isReady_after (pending : List Snippet) (log : SnippetLog) (call : SnippetCall) :
    (log.after pending call).isReady = (log.isReady || call.makesReady) := by
  cases call with
  | insert s =>
    rw [after]
    split <;> simp [SnippetCall.makesReady]
  | ready | generate =>
    rw [after]
    split <;> simp_all [SnippetCall.makesReady]

theorem isReady_foldl_after (pending : List Snippet) (log : SnippetLog) (calls : List SnippetCall) :
    (calls.foldl (after pending) log).isReady =
      (log.isReady || calls.any SnippetCall.makesReady) := by
  induction calls generalizing log with
  | nil => exact (Bool.or_false _).symm
  | cons call rest ih => rw [List.foldl_cons, ih, isReady_after, List.any_cons, Bool.or_assoc]

theorem isReady_run (pending : List Snippet) (calls : List SnippetCall) :
    (run pending calls).isReady = calls.any SnippetCall.makesReady := by
  rw [run, isReady_foldl_after, Bool.false_or]

end SnippetLog

namespace SnippetStore

/-- The store is where its log says. -/
structure Follows (pending : List Snippet) (store : SnippetStore) (log : SnippetLog) : Prop where
  index : HoldsLast log.written store.index
  isReady : store.isReady = log.isReady
  pending : store.isReady = false → store.pending = pending

variable {pending written : List Snippet} {store : SnippetStore} {log : SnippetLog}

theorem follows_ofPending (pending : List Snippet) : Follows pending (ofPending pending) {} where
  index := .nil
  isReady := rfl
  pending _ := rfl

/-! ### One call -/

/-- A snippet is refused exactly when its identifier is indexed, and otherwise goes to the end. -/
theorem insert_eq (store : SnippetStore) (s : Snippet) :
    store.insert s =
      if s.id ∈ store.index.map Prod.fst then .error ⟨s.id⟩
      else .ok { store with index := store.index ++ [(s.id, s)] } := by
  rw [insert]
  by_cases hmem : s.id ∈ store.index.map Prod.fst
  · rw [if_pos hmem, if_pos (lookup_isSome_iff.mpr hmem)]
  · rw [if_neg hmem, if_neg (lookup_isSome_iff.not.mpr hmem), put_of_not_mem hmem]

theorem ready_of_isReady (h : store.isReady = true) : store.ready = store := by
  rw [ready, if_pos h]

theorem Follows.ready (h : Follows pending store log) :
    Follows pending store.ready (log.after pending .ready) := by
  rw [SnippetLog.after, ← h.isReady]
  cases hready : store.isReady with
  | true =>
    rw [ready_of_isReady hready]
    exact h
  | false =>
    rw [SnippetStore.ready, hready, h.pending hready]
    exact ⟨h.index.putAll pending, rfl, nofun⟩

/-- Each call on the store is followed by its log. -/
theorem Follows.after (h : Follows pending store log) (call : SnippetCall) :
    Follows pending (store.after call) (log.after pending call) := by
  cases call with
  | ready => exact h.ready
  | generate g request => exact h.ready
  | insert s =>
    have hids : s.id ∈ store.index.map Prod.fst ↔ s.id ∈ log.written.map Snippet.id := by
      rw [h.index.keys_eq, List.mem_eraseDups]
    rw [SnippetStore.after, SnippetLog.after, insert_eq]
    by_cases hmem : s.id ∈ store.index.map Prod.fst
    · rw [if_pos hmem, if_pos (hids.mp hmem)]
      exact h
    · rw [if_neg hmem, if_neg (hids.not.mp hmem), ← put_of_not_mem hmem]
      exact ⟨h.index.put s, h.isReady, h.pending⟩

/-- After any calls the store is where the log of these calls says. -/
theorem follows_run (pending : List Snippet) (calls : List SnippetCall) :
    Follows pending (run pending calls) (SnippetLog.run pending calls) := by
  induction calls using List.reverseRecOn with
  | nil => exact follows_ofPending pending
  | append_singleton calls call ih =>
    rw [run, SnippetLog.run, List.foldl_append, List.foldl_append]
    exact ih.after call

theorem Follows.prefix_ready (h : Follows pending store log) :
    store.index.map Prod.fst <+: store.ready.index.map Prod.fst := by
  rw [h.index.keys_eq, h.ready.index.keys_eq, SnippetLog.after]
  split
  · exact List.prefix_rfl
  · rw [List.map_append, List.eraseDups_append]
    exact List.prefix_append _ _

/-! ### What a store answers -/

/-- The snippets of the store that `p` holds of, each once, in order. -/
structure IsSelection (store : SnippetStore) (p : Snippet → Prop) (selected : List Snippet) :
    Prop where
  sublist : selected.Sublist store.snippets
  nodup : selected.Nodup
  mem_iff : ∀ s, s ∈ selected ↔ store.get? s.id = some s ∧ p s

theorem HoldsLast.isSelection (h : HoldsLast written store.index) (p : Snippet → Bool) :
    IsSelection store (p · = true) (store.snippets.filter p) where
  sublist := List.filter_sublist
  nodup := h.nodup.filter p
  mem_iff s := by
    rw [List.mem_filter, snippets, h.mem_iff]
    rfl

theorem result_generateWith (g : Generator) (request : Request) (store : SnippetStore) :
    (g.generateWith request store).2.result =
      (g.generate request).result.map fun files => ⟨files, store.ready.size⟩ := by
  simp only [Generator.generateWith, Traced.result_bind, Traced.result_emit, Traced.result_pure]
  cases (g.generate request).result <;> rfl

end SnippetStore

/-- After any calls a store is a map in the order of insertion that holds the last snippet written
under each identifier: one that was accepted, or one that was pending when the store was made ready
for the first time. It refuses a snippet exactly when its identifier is indexed and adds any other
at the end; it finds and selects what it holds; and it does not matter to the files that are made
with it, which make it ready even if there are none. -/
theorem snippets_last_written (pending : List Snippet) (calls : List SnippetCall) :
    let store := SnippetStore.run pending calls
    let written := (SnippetLog.run pending calls).written
    SnippetStore.HoldsLast written store.index ∧
    (∀ s, s.id ∈ store.index.map Prod.fst →
      store.insert s = .error ⟨s.id⟩ ∧ store.after (.insert s) = store) ∧
    (∀ s, s.id ∉ store.index.map Prod.fst →
      store.insert s = .ok { store with index := store.index ++ [(s.id, s)] }) ∧
    store.isReady = calls.any SnippetCall.makesReady ∧
    (store.isReady = true → store.ready = store) ∧
    (store.isReady = false →
      SnippetStore.HoldsLast (written ++ pending) store.ready.index ∧
      store.index.map Prod.fst <+: store.ready.index.map Prod.fst) ∧
    store.size = (written.map Snippet.id).toFinset.card ∧
    (∀ id, store.get? id = (written.filter (·.id = id)).getLast?) ∧
    (∀ category, store.IsSelection (·.category = category) (store.inCategory category)) ∧
    (∀ tag, store.IsSelection (tag ∈ ·.tags) (store.tagged tag)) ∧
    ∀ (g : Generator) (request : Request),
      (g.generateWith request store).1 = store.ready ∧
      (g.generateWith request store).2.result =
        (g.generate request).result.map fun files => ⟨files, store.ready.size⟩ := by
  intro store written
  have hfollows := SnippetStore.follows_run pending calls
  have hindex : SnippetStore.HoldsLast written store.index := hfollows.index
  refine ⟨hindex, ?_, ?_, ?_, SnippetStore.ready_of_isReady, ?_, hindex.length_eq, hindex.lookup_eq,
    ?_, ?_, fun g request => ⟨rfl, SnippetStore.result_generateWith g request store⟩⟩
  · intro s hs
    have hrefused : store.insert s = .error ⟨s.id⟩ := by rw [SnippetStore.insert_eq, if_pos hs]
    exact ⟨hrefused, by rw [SnippetStore.after, hrefused]⟩
  · intro s hs
    rw [SnippetStore.insert_eq, if_neg hs]
  · rw [← SnippetLog.isReady_run pending calls]
    exact hfollows.isReady
  · intro hready
    have hlog : (SnippetLog.run pending calls).isReady = false := hfollows.isReady ▸ hready
    have hall := hfollows.ready.index
    rw [SnippetLog.after, hlog] at hall
    exact ⟨hall, hfollows.prefix_ready⟩
  · intro category
    have hselection := hindex.isSelection fun s => s.category = category
    simp only [decide_eq_true_eq] at hselection
    exact hselection
  · intro tag
    have hselection := hindex.isSelection fun s => s.tags.contains tag
    simp only [List.contains_iff_mem] at hselection
    exact hselection

/-- Two snippets with one identifier, of which the first is accepted before the store is made ready
and the second pending until then. -/
theorem snippets_last_written_collision :
    let early : Snippet := ⟨"hero", "marketing", [], "<p>1</p>"⟩
    let late : Snippet := ⟨"hero", "marketing", ["dark"], "<p>2</p>"⟩
    let other : Snippet := ⟨"form", "account", [], "<form />"⟩
    let store := SnippetStore.run [other, late] [.insert early, .ready]
    store.index.map Prod.fst = ["hero", "form"] ∧ store.get? "hero" = some late ∧
      store.insert early = .error ⟨"hero"⟩ ∧ store.ready = store := by
  intro early late other store
  obtain ⟨hindex, hrefuse, -, hisReady, hready, -, -, hget, -⟩ :=
    snippets_last_written [other, late] [.insert early, .ready]
  have hkeys : store.index.map Prod.fst = ["hero", "form"] := by
    rw [hindex.keys_eq]
    decide
  refine ⟨hkeys, ?_, ?_, hready hisReady⟩
  · rw [hget]
    decide
  · exact (hrefuse early (hkeys ▸ List.mem_cons_self)).1

end Scaffold
