import Mathlib.Data.Finset.Card
import Mathlib.Data.List.Nodup
import Scaffold.Snippet

/-!
# What an index holds

An index is a map in the order of insertion: `put` replaces in place what stands under its key and
adds a new key at the end (`keys_put`, `lookup_put`). So the index of snippets that were written one
after the other has each identifier once, in the order of the first snippet with it, and the last
snippet under it (`HoldsLast`).
-/

namespace Scaffold

namespace SnippetStore

variable {key : String} {s : Snippet} {index : List (String × Snippet)}

/-! ### Putting one snippet -/

theorem keys_put (key : String) (s : Snippet) (index : List (String × Snippet)) :
    (put key s index).map Prod.fst =
      if key ∈ index.map Prod.fst then index.map Prod.fst else index.map Prod.fst ++ [key] := by
  induction index with
  | nil => simp [put]
  | cons entry rest ih =>
    obtain ⟨k, t⟩ := entry
    by_cases hk : k = key
    · simp [put, hk]
    · have hk' : key ≠ k := Ne.symm hk
      by_cases hmem : key ∈ rest.map Prod.fst
      · rw [if_pos hmem] at ih
        simp_all [put]
      · rw [if_neg hmem] at ih
        simp_all [put]

theorem lookup_cons (k id : String) (t : Snippet) :
    List.lookup id ((k, t) :: index) = if id = k then some t else index.lookup id := by
  rw [List.lookup_cons]
  by_cases hid : id = k
  · simp [hid]
  · have hne : (id == k) = false := beq_false_of_ne hid
    simp [hne, hid]

theorem lookup_put (key : String) (s : Snippet) (index : List (String × Snippet)) (id : String) :
    (put key s index).lookup id = if id = key then some s else index.lookup id := by
  induction index with
  | nil => rw [put, lookup_cons]
  | cons entry rest ih =>
    obtain ⟨k, t⟩ := entry
    rw [put]
    split
    · next hk =>
      subst hk
      rw [lookup_cons, lookup_cons]
      split <;> rfl
    · next hk =>
      rw [lookup_cons, lookup_cons, ih]
      by_cases hid : id = k
      · have hkey : id ≠ key := fun heq => hk (hid.symm.trans heq)
        rw [if_pos hid, if_pos hid, if_neg hkey]
      · rw [if_neg hid, if_neg hid]

theorem lookup_isSome_iff {id : String} :
    (index.lookup id).isSome = true ↔ id ∈ index.map Prod.fst := by
  rw [List.lookup_isSome_iff]
  simp

/-- A new key goes to the end. -/
theorem put_of_not_mem (h : key ∉ index.map Prod.fst) : put key s index = index ++ [(key, s)] := by
  induction index with
  | nil => rfl
  | cons entry rest ih =>
    obtain ⟨k, t⟩ := entry
    rw [List.map_cons, List.mem_cons, not_or] at h
    rw [put, if_neg (Ne.symm h.1), ih h.2, List.cons_append]

theorem mem_put {entry : String × Snippet} (h : entry ∈ put key s index) :
    entry = (key, s) ∨ entry ∈ index := by
  induction index with
  | nil => exact .inl (by simpa [put] using h)
  | cons first rest ih =>
    obtain ⟨k, t⟩ := first
    rw [put] at h
    split at h
    · next hk =>
      rcases List.mem_cons.mp h with rfl | hrest
      · exact .inl (by rw [hk])
      · exact .inr (List.mem_cons_of_mem _ hrest)
    · rcases List.mem_cons.mp h with rfl | hrest
      · exact .inr List.mem_cons_self
      · exact (ih hrest).imp_right (List.mem_cons_of_mem _)

/-- Where no key is there twice, all entries are found. -/
theorem lookup_eq_some_iff (h : (index.map Prod.fst).Nodup) :
    index.lookup key = some s ↔ (key, s) ∈ index := by
  induction index with
  | nil => simp
  | cons entry rest ih =>
    obtain ⟨k, t⟩ := entry
    rw [List.map_cons, List.nodup_cons] at h
    rw [lookup_cons, List.mem_cons, Prod.mk.injEq]
    by_cases hk : key = k
    · have hrest : (key, s) ∉ rest := fun hmem =>
        h.1 (List.mem_map.mpr ⟨(key, s), hmem, hk⟩)
      rw [if_pos hk, Option.some.injEq]
      constructor
      · rintro rfl
        exact .inl ⟨hk, rfl⟩
      · rintro (⟨-, rfl⟩ | hmem)
        · rfl
        · exact absurd hmem hrest
    · rw [if_neg hk, ih h.2]
      simp [hk]

/-! ### Snippets that were written one after the other -/

theorem eraseDups_concat (ids : List String) (id : String) :
    (ids ++ [id]).eraseDups = if id ∈ ids then ids.eraseDups else ids.eraseDups ++ [id] := by
  have hnew : [id].removeAll ids = if id ∈ ids then [] else [id] := by
    by_cases hmem : id ∈ ids <;> simp [List.removeAll, hmem]
  rw [List.eraseDups_append, hnew]
  split
  · rw [List.eraseDups_nil, List.append_nil]
  · rfl

/-- The index has each identifier that was written once, in the order of the first snippet with it,
under it the last snippet with it, and nothing else. -/
structure HoldsLast (written : List Snippet) (index : List (String × Snippet)) : Prop where
  keys_eq : index.map Prod.fst = (written.map Snippet.id).eraseDups
  keys_nodup : (index.map Prod.fst).Nodup
  key_eq_id : ∀ entry ∈ index, entry.1 = entry.2.id
  lookup_eq : ∀ id, index.lookup id = (written.filter (·.id = id)).getLast?

theorem HoldsLast.nil : HoldsLast [] [] where
  keys_eq := rfl
  keys_nodup := List.nodup_nil
  key_eq_id := by simp
  lookup_eq := by simp

/-- One more snippet. -/
theorem HoldsLast.put {written : List Snippet} (h : HoldsLast written index) (s : Snippet) :
    HoldsLast (written ++ [s]) (put s.id s index) where
  keys_eq := by
    have hids : s.id ∈ index.map Prod.fst ↔ s.id ∈ written.map Snippet.id := by
      rw [h.keys_eq, List.mem_eraseDups]
    rw [keys_put, List.map_append, List.map_singleton, eraseDups_concat, ← h.keys_eq]
    simp only [hids]
  keys_nodup := by
    rw [keys_put]
    split
    · exact h.keys_nodup
    · next hnew => exact List.concat_eq_append ▸ h.keys_nodup.concat hnew
  key_eq_id := by
    intro entry hentry
    rcases mem_put hentry with rfl | hold
    · rfl
    · exact h.key_eq_id entry hold
  lookup_eq := by
    intro id
    rw [lookup_put, h.lookup_eq, List.filter_append]
    by_cases hid : s.id = id
    · simp [hid]
    · simp [hid, Ne.symm hid]

theorem HoldsLast.putAll {written : List Snippet} (h : HoldsLast written index)
    (snippets : List Snippet) : HoldsLast (written ++ snippets) (putAll index snippets) := by
  induction snippets generalizing written index with
  | nil => simpa [SnippetStore.putAll] using h
  | cons s rest ih =>
    have hrest := ih (h.put s)
    rw [List.append_assoc, List.singleton_append] at hrest
    exact hrest

namespace HoldsLast

variable {written : List Snippet}

/-- The size of the index is the number of identifiers that were written. -/
theorem length_eq (h : HoldsLast written index) :
    index.length = (written.map Snippet.id).toFinset.card := by
  have hids : (index.map Prod.fst).toFinset = (written.map Snippet.id).toFinset := by
    ext id
    rw [List.mem_toFinset, List.mem_toFinset, h.keys_eq, List.mem_eraseDups]
  rw [← hids, List.toFinset_card_of_nodup h.keys_nodup, List.length_map]

/-- The indexed snippets are those that are found under their identifiers. -/
theorem mem_iff (h : HoldsLast written index) {s : Snippet} :
    s ∈ index.map Prod.snd ↔ index.lookup s.id = some s := by
  rw [lookup_eq_some_iff h.keys_nodup, List.mem_map]
  constructor
  · rintro ⟨⟨k, t⟩, hmem, rfl⟩
    have hkey := h.key_eq_id (k, t) hmem
    exact hkey ▸ hmem
  · exact fun hmem => ⟨_, hmem, rfl⟩

theorem nodup (h : HoldsLast written index) : (index.map Prod.snd).Nodup := by
  have hids : (index.map Prod.snd).map Snippet.id = index.map Prod.fst := by
    rw [List.map_map]
    exact List.map_congr_left fun entry hentry => (h.key_eq_id entry hentry).symm
  exact List.Nodup.of_map Snippet.id (hids ▸ h.keys_nodup)

end HoldsLast

end SnippetStore

end Scaffold
