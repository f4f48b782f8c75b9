import Mathlib.Data.List.Induction
import Scaffold.Generator

/-!
# Tables under registrations

A slot of a table holds what was registered for its archetype last (`producer?_insertAll`), since
different archetypes have different slots. What a table contains, lists, lacks and makes is read off
its slots; and a generator, which has a complete table only, never shows the placeholder for an
archetype unless that was registered.
-/

namespace Scaffold

/-! ### Slots -/

namespace Archetype

theorem index_inj {a b : Archetype} : a.index = b.index ↔ a = b := by
  constructor
  · intro h
    calc a = all[a.index] := (getElem_index a).symm
      _ = all[b.index] := by simp only [h]
      _ = b := getElem_index b
  · rintro rfl
    rfl

/-- No archetype is listed twice, and each stands behind those of smaller index. -/
theorem pairwise_index_lt : all.Pairwise fun a b => a.index < b.index := by
  decide

end Archetype

namespace BodyTable

variable {t : BodyTable} {a : Archetype}

theorem producer?_empty (a : Archetype) : empty.producer? a = none := by
  simp [producer?, empty]

theorem producer?_standard (a : Archetype) :
    standard.producer? a = some (Page.standardBody a) := by
  cases a <;> rfl

theorem producer?_insert (t : BodyTable) (a b : Archetype) (p : Producer) :
    (t.insert a p).producer? b = if a = b then some p else t.producer? b := by
  have hslot : (a.index : Nat) = b.index ↔ a = b := by
    rw [Fin.val_inj, Archetype.index_inj]
  simp only [producer?, insert, Fin.getElem_fin, Vector.getElem_set, hslot]

/-! ### Registrations -/

abbrev Registration := Archetype × Producer

/-- The table after producers were registered one after the other. -/
def insertAll (t : BodyTable) (calls : List Registration) : BodyTable :=
  calls.foldl (fun t call => t.insert call.1 call.2) t

/-- The producer that is registered last for an archetype. -/
def lastFor (a : Archetype) (calls : List Registration) : Option Producer :=
  ((calls.filter (·.1 = a)).getLast?).map Prod.snd

theorem lastFor_eq_none_iff {calls : List Registration} :
    lastFor a calls = none ↔ a ∉ calls.map Prod.fst := by
  rw [lastFor, Option.map_eq_none_iff, List.getLast?_eq_none_iff, List.filter_eq_nil_iff,
    List.mem_map]
  simp only [decide_eq_true_eq, not_exists, not_and]

theorem producer?_insertAll (t : BodyTable) (calls : List Registration) (a : Archetype) :
    (t.insertAll calls).producer? a = (lastFor a calls).or (t.producer? a) := by
  induction calls using List.reverseRecOn with
  | nil => rfl
  | append_singleton calls call ih =>
    have hinsert : t.insertAll (calls ++ [call]) = (t.insertAll calls).insert call.1 call.2 := by
      rw [insertAll, List.foldl_append]
      rfl
    rw [hinsert, producer?_insert, ih]
    by_cases ha : call.1 = a
    · simp [lastFor, ha]
    · simp [lastFor, ha]

/-! ### What is read off the slots -/

theorem contains_eq_false_iff : t.contains a = false ↔ t.producer? a = none := by
  rw [contains, Option.isSome_eq_false_iff, Option.isNone_iff_eq_none]

theorem body_of_producer {p : Producer} (h : t.producer? a = some p) :
    t.body (.known a) = p := by
  funext look
  simp [body, ArchetypeName.known?, h]

theorem body_of_not_contains (h : t.contains a = false) :
    t.body (.known a) = Page.placeholder a.name := by
  rw [contains_eq_false_iff] at h
  funext look
  simp [body, ArchetypeName.known?, ArchetypeName.text, h]

theorem mem_archetypes_iff : a ∈ t.archetypes ↔ t.contains a = true := by
  rw [archetypes, List.mem_filter]
  exact and_iff_right (Archetype.mem_all a)

theorem requireComplete_eq_ok_iff : t.requireComplete = .ok () ↔ ∀ a, t.contains a = true := by
  unfold requireComplete
  split
  · next missing h =>
    have hmissing : t.contains missing = false := by simpa using List.find?_some h
    constructor
    · intro herror
      cases herror
    · intro hall
      rw [hall missing] at hmissing
      cases hmissing
  · next h =>
    rw [List.find?_eq_none] at h
    refine iff_of_true rfl ?_
    intro a
    simpa using h a (Archetype.mem_all a)

/-- What is missing comes before all else that is. -/
theorem index_le_of_requireComplete {e : IncompleteTable} (h : t.requireComplete = .error e) :
    t.contains e.archetype = false ∧
      ∀ a, t.contains a = false → e.archetype.index ≤ a.index := by
  unfold requireComplete at h
  split at h
  · next missing hfind =>
    cases h
    obtain ⟨hmissing, before, after, hall, hbefore⟩ := List.find?_eq_some_iff_append.mp hfind
    refine ⟨by simpa using hmissing, ?_⟩
    intro a ha
    have hsorted := Archetype.pairwise_index_lt
    have hmem := Archetype.mem_all a
    rw [hall] at hsorted hmem
    rcases List.mem_append.mp hmem with hfront | hback
    · have hpresent : t.contains a = true := by simpa using hbefore a hfront
      rw [ha] at hpresent
      cases hpresent
    · rcases List.mem_cons.mp hback with rfl | hback
      · exact Fin.le_refl _
      · have hrest := (List.pairwise_append.mp hsorted).2.1
        exact Fin.le_of_lt (List.rel_of_pairwise_cons hrest hback)
  · cases h

theorem requireComplete_eq_error_iff {e : IncompleteTable} :
    t.requireComplete = .error e ↔
      t.contains e.archetype = false ∧
        ∀ a, t.contains a = false → e.archetype.index ≤ a.index := by
  refine ⟨index_le_of_requireComplete, ?_⟩
  rintro ⟨hmissing, hfirst⟩
  cases hcomplete : t.requireComplete with
  | ok =>
    rw [requireComplete_eq_ok_iff.mp hcomplete] at hmissing
    cases hmissing
  | error other =>
    obtain ⟨hother, hle⟩ := index_le_of_requireComplete hcomplete
    have harchetype : other.archetype = e.archetype :=
      Archetype.index_inj.mp (Fin.le_antisymm (hle _ hmissing) (hfirst _ hother))
    have hsame : other = e := congrArg IncompleteTable.mk harchetype
    rw [hsame]

end BodyTable

/-! ### Generators -/

namespace Generator

variable {t : BodyTable} {options : Options}

theorem ofTable_eq_ok_iff {g : Generator} :
    ofTable t options = .ok g ↔
      t.requireComplete = .ok () ∧ g.bodies = t ∧ g.options = options := by
  unfold ofTable
  split
  · next h =>
    rw [Except.ok.injEq]
    constructor
    · rintro rfl
      exact ⟨h, rfl, rfl⟩
    · rintro ⟨-, rfl, rfl⟩
      rfl
  · next e h =>
    refine iff_of_false nofun ?_
    rintro ⟨hok, -⟩
    rw [h] at hok
    cases hok

theorem ofTable_eq_error_iff {e : IncompleteTable} :
    ofTable t options = .error e ↔ t.requireComplete = .error e := by
  unfold ofTable
  split
  · next h =>
    refine iff_of_false nofun ?_
    intro herror
    rw [h] at herror
    cases herror
  · next other h => rw [h, Except.error.injEq, Except.error.injEq]

end Generator

/-! ### The standard bodies are not the placeholder -/

/-- The tags of the children of a node, and how many children each of them has. -/
def Node.outline : Node → List (String × Nat)
  | .element _ _ children => children.map fun
    | .element tag _ inner => (tag, inner.length)
    | _ => ("", 0)
  | _ => []

theorem Page.outline_placeholder (name : String) (look : Look) :
    (placeholder name look).outline = [("main", 2)] := rfl

theorem Page.outline_standardBody (a : Archetype) (look : Look) :
    (standardBody a look).outline ≠ [("main", 2)] := by
  cases a <;> exact ne_of_beq_false rfl

theorem Page.standardBody_ne_placeholder (a : Archetype) (name : String) (look other : Look) :
    standardBody a look ≠ placeholder name other := by
  intro h
  have houtline := outline_standardBody a look
  rw [h, outline_placeholder] at houtline
  exact houtline rfl

/-! ### Tables that callers make -/

/-- How a table answers that was `start` before the registrations `calls`. -/
structure BodyTable.IsFaithful (start : BodyTable) (calls : List Registration) (t : BodyTable) :
    Prop where
  slots : t.slots.size = Archetype.all.length ∧
    ∀ a : Archetype, Archetype.all[(a.index : Nat)]? = some a
  contains_iff : ∀ a, t.contains a = true ↔ start = standard ∨ a ∈ calls.map Prod.fst
  body_of_last : ∀ a p, lastFor a calls = some p → t.body (.known a) = p
  body_of_standard : ∀ a, start = standard → a ∉ calls.map Prod.fst →
    t.body (.known a) = Page.standardBody a
  body_of_not_contains : ∀ a, t.contains a = false → t.body (.known a) = Page.placeholder a.name
  /-- Only what is registered for an archetype matters to its body. -/
  body_congr : ∀ (a : Archetype) (others : List Registration),
    others.filter (·.1 = a) = calls.filter (·.1 = a) →
    (start.insertAll others).body (.known a) = t.body (.known a)
  archetypes_sorted : t.archetypes.Pairwise fun a b => a.index < b.index
  mem_archetypes_iff : ∀ a, a ∈ t.archetypes ↔ t.contains a = true
  complete_iff : t.requireComplete = .ok () ↔ ∀ a, t.contains a = true
  incomplete_iff : ∀ e, t.requireComplete = .error e ↔
    t.contains e.archetype = false ∧ ∀ a, t.contains a = false → e.archetype.index ≤ a.index

namespace BodyTable

variable {start : BodyTable}

theorem producer?_start (hstart : start = empty ∨ start = standard) (a : Archetype) :
    (start.producer? a).isSome = true ↔ start = standard := by
  rcases hstart with rfl | rfl
  · rw [producer?_empty]
    refine iff_of_false (by simp) ?_
    intro hsame
    have hnone := producer?_empty a
    rw [hsame, producer?_standard] at hnone
    cases hnone
  · rw [producer?_standard]
    exact iff_of_true rfl rfl

theorem body_congr {t u : BodyTable} {a : Archetype} (h : t.producer? a = u.producer? a) :
    t.body (.known a) = u.body (.known a) := by
  funext look
  simp only [body, ArchetypeName.known?, Option.bind_some, h]

theorem isFaithful_insertAll (hstart : start = empty ∨ start = standard)
    (calls : List Registration) : IsFaithful start calls (start.insertAll calls) where
  slots := ⟨rfl, fun a => by cases a <;> rfl⟩
  contains_iff a := by
    rw [contains, producer?_insertAll, Option.isSome_or, Bool.or_eq_true, producer?_start hstart,
      or_comm]
    refine or_congr_right ?_
    rw [← not_iff_not, ← lastFor_eq_none_iff]
    simp
  body_of_last a p h := body_of_producer (by rw [producer?_insertAll, h, Option.some_or])
  body_of_standard := by
    rintro a rfl h
    apply body_of_producer
    rw [producer?_insertAll, lastFor_eq_none_iff.mpr h, Option.none_or, producer?_standard]
  body_of_not_contains _ := body_of_not_contains
  body_congr := by
    intro a others h
    apply body_congr
    have hlast : lastFor a others = lastFor a calls := by rw [lastFor, h, ← lastFor]
    rw [producer?_insertAll, producer?_insertAll, hlast]
  archetypes_sorted := Archetype.pairwise_index_lt.filter _
  mem_archetypes_iff _ := mem_archetypes_iff
  complete_iff := requireComplete_eq_ok_iff
  incomplete_iff _ := requireComplete_eq_error_iff

end BodyTable

/-- A table that starts empty or with the standard bodies answers, after any registrations, by what
was registered last. A generator is made of it exactly when no archetype lacks a body, and it shows
the placeholder for an archetype only when the caller has registered a producer that makes it. -/
theorem bodies_of_registrations {start : BodyTable} (hstart : start = .empty ∨ start = .standard)
    (calls : List BodyTable.Registration) (options : Options) :
    let t := start.insertAll calls
    BodyTable.IsFaithful start calls t ∧
    (∀ e, Generator.ofTable t options = .error e ↔ t.requireComplete = .error e) ∧
    (∀ g, Generator.ofTable t options = .ok g ↔
      t.requireComplete = .ok () ∧ g.bodies = t ∧ g.options = options) ∧
    (Generator.ofTable .standard options = .ok (.standard options)) ∧
    ∀ g, Generator.ofTable t options = .ok g →
      (∀ name, g.bodies.body (.unknown name) = Page.placeholder name) ∧
      ∀ (a : Archetype) (look other : Look) (name : String),
        g.bodies.body (.known a) look = Page.placeholder name other →
        ∃ p, BodyTable.lastFor a calls = some p ∧ p look = Page.placeholder name other := by
  intro t
  have hfaithful := BodyTable.isFaithful_insertAll hstart calls
  refine ⟨hfaithful, fun e => Generator.ofTable_eq_error_iff,
    fun g => Generator.ofTable_eq_ok_iff, Generator.ofTable_eq_ok_iff.mpr ⟨rfl, rfl, rfl⟩, ?_⟩
  intro g hg
  obtain ⟨hcomplete, hbodies, -⟩ := Generator.ofTable_eq_ok_iff.mp hg
  refine ⟨fun name => rfl, ?_⟩
  intro a look other name hplaceholder
  rw [hbodies] at hplaceholder
  cases hlast : BodyTable.lastFor a calls with
  | some p =>
    rw [hfaithful.body_of_last a p hlast] at hplaceholder
    exact ⟨p, rfl, hplaceholder⟩
  | none =>
    -- what nobody registered is there from the start
    have hunregistered := BodyTable.lastFor_eq_none_iff.mp hlast
    have hstandard : start = .standard := by
      have hcontains := hfaithful.complete_iff.mp hcomplete a
      exact ((hfaithful.contains_iff a).mp hcontains).resolve_right hunregistered
    rw [hfaithful.body_of_standard a hstandard hunregistered] at hplaceholder
    exact absurd hplaceholder (Page.standardBody_ne_placeholder a name look other)

/-- Standard bodies of which some are replaced, one of them twice, and a table with two bodies. -/
theorem bodies_of_registrations_greeting :
    let gone : Producer := fun _ => .text "gone"
    let greeting : Producer := fun look => .text ("Hello " ++ look.appName)
    let replaced := BodyTable.standard.insertAll
      [(.landing, gone), (.pricing, gone), (.landing, greeting)]
    let sparse := BodyTable.empty.insertAll [(.error404, gone), (.landing, greeting)]
    (∃ g, Generator.ofTable replaced {} = .ok g ∧ g.bodies.body (.known .landing) = greeting ∧
      g.bodies.body (.known .settings) = Page.standardBody .settings) ∧
    Generator.ofTable sparse {} = .error ⟨.dashboard⟩ ∧
    sparse.body (.known .blogList) = Page.placeholder "blog_list" := by
  intro gone greeting replaced sparse
  obtain ⟨hreplaced, -, hmade, -, -⟩ := bodies_of_registrations (.inr rfl)
    [(.landing, gone), (.pricing, gone), (.landing, greeting)] {}
  obtain ⟨hsparse, hrefused, -, -, -⟩ := bodies_of_registrations (.inl rfl)
    [(.error404, gone), (.landing, greeting)] {}
  refine ⟨?_, ?_, hsparse.body_of_not_contains .blogList rfl⟩
  · have hcomplete : replaced.requireComplete = .ok () :=
      hreplaced.complete_iff.mpr fun a => (hreplaced.contains_iff a).mpr (.inl rfl)
    refine ⟨⟨replaced, {}, hcomplete⟩, (hmade _).mpr ⟨hcomplete, rfl, rfl⟩, ?_, ?_⟩
    · exact hreplaced.body_of_last .landing greeting rfl
    · exact hreplaced.body_of_standard .settings rfl (by simp)
  · refine (hrefused _).mpr ((hsparse.incomplete_iff _).mpr ⟨rfl, ?_⟩)
    intro a
    cases a <;> decide

end Scaffold
