import Mathlib.Data.List.Basic
import Scaffold.Proofs.Json.Records

/-!
# What was read

From the result of a reader back to the JSON it was read from. For a record the members can be put
in order: one member for each field that is filled, in the order of the form, and behind them those
that no field answers to (`Form.exists_carries`).
-/

namespace Scaffold

variable {σ α : Type}

namespace Json

/-! ### Single values -/

theorem readStr_eq_ok_iff {json : Json} {text : String} :
    json.readStr = .ok text ↔ json = .str text := by
  cases json <;> simp [readStr]

theorem readUnit_eq_ok_iff {json : Json} : json.readUnit = .ok () ↔ json = .null := by
  cases json <;> simp [readUnit]

/-! ### Whole values -/

theorem keyed_injective : Function.Injective keyed := by
  apply List.map_injective_iff.mpr
  rintro ⟨key, value⟩ ⟨key', value'⟩ h
  simpa using h

theorem isWhole_ofItems_iff {items : List Json} :
    (ofItems items).IsWhole ↔ ∀ item ∈ items, item.IsWhole := by
  refine ⟨?_, .arr⟩
  intro h
  cases h with
  | arr h => exact h

theorem isWhole_ofMembers_iff {members : List (String × Json)} :
    (ofMembers members).IsWhole ↔ ∀ member ∈ members, member.2.IsWhole := by
  refine ⟨?_, .obj⟩
  intro h
  generalize hjson : ofMembers members = json at h
  cases h with
  | obj h =>
    obtain rfl := keyed_injective (obj.inj hjson).1
    exact h
  | _ => cases hjson

theorem Carries.isWhole {known : List String} {listed members : List (String × Json)}
    (h : Carries known listed members) (hwhole : (ofMembers members).IsWhole) :
    ∀ member ∈ listed, member.2.IsWhole := by
  obtain ⟨others, hperm, -⟩ := h
  intro member hmember
  have hmem := hperm.mem_iff.mpr (List.mem_append_left others hmember)
  exact isWhole_ofMembers_iff.mp hwhole member hmem

/-! ### Lists and variants -/

theorem readEach_eq_ok {read : Json → Except DecodeError α} {items : List Json} {values : List α}
    (h : readEach read items = .ok values) :
    ∃ pairs : List (α × Json), items = pairs.map (·.2) ∧ values = pairs.map (·.1) ∧
      ∀ pair ∈ pairs, read pair.2 = .ok pair.1 := by
  induction items generalizing values with
  | nil =>
    cases h
    exact ⟨[], rfl, rfl, nofun⟩
  | cons item rest ih =>
    obtain ⟨value, hvalue, h⟩ := bind_eq_ok_iff.mp h
    obtain ⟨others, hothers, h⟩ := bind_eq_ok_iff.mp h
    cases h
    obtain ⟨pairs, rfl, rfl, hpairs⟩ := ih hothers
    exact ⟨(value, item) :: pairs, rfl, rfl, List.forall_mem_cons.mpr ⟨hvalue, hpairs⟩⟩

theorem readList_eq_ok {read : Source → Json → Except DecodeError α} {json : Json}
    {values : List α} (h : json.readList read .value = .ok values) :
    ∃ pairs : List (α × Json), json = .ofItems (pairs.map (·.2)) ∧ values = pairs.map (·.1) ∧
      ∀ pair ∈ pairs, read .value pair.2 = .ok pair.1 := by
  cases json with
  | arr items ending =>
    obtain ⟨_, hsource, h⟩ := bind_eq_ok_iff.mp h
    cases hsource
    obtain ⟨others, heach, h⟩ := bind_eq_ok_iff.mp h
    obtain ⟨⟨⟩, hending, h⟩ := bind_eq_ok_iff.mp h
    cases h
    rw [Ending.check_eq_ok_iff] at hending
    obtain ⟨pairs, rfl, rfl, hpairs⟩ := readEach_eq_ok heach
    exact ⟨pairs, by rw [hending, ofItems], rfl, hpairs⟩
  | _ => cases h

theorem readVariantKey_eq_ok {names : List String} {key : Json} {name : String}
    (h : readVariantKey names key = .ok name) : key = .str name ∧ name ∈ names := by
  unfold readVariantKey at h
  split at h
  · split at h
    · next hname =>
      cases h
      exact ⟨rfl, List.contains_iff_mem.mp hname⟩
    · cases h
  · cases h

theorem closeVariant_eq_ok {others : List (Json × Json)} {ending : Ending}
    (h : closeVariant others ending = .ok ()) : others = [] ∧ ending = .closed := by
  unfold closeVariant at h
  split at h
  · next hempty => exact ⟨List.isEmpty_iff.mp hempty, Ending.check_eq_ok_iff.mp h⟩
  · cases h

theorem readVariant_eq_ok {names : List String}
    {read : String → Option (Source × Json) → Except DecodeError α} {json : Json} {a : α}
    (h : readVariant names read .value json = .ok a) :
    ∃ name ∈ names, json = .str name ∧ read name none = .ok a ∨
      ∃ payload, json = .ofMembers [(name, payload)] ∧
        read name (some (.value, payload)) = .ok a := by
  unfold readVariant at h
  split at h
  · next text =>
    obtain ⟨name, hname, hread⟩ := bind_eq_ok_iff.mp h
    obtain ⟨hjson, hmem⟩ := readVariantKey_eq_ok hname
    exact ⟨name, hmem, .inl ⟨hjson, hread⟩⟩
  · next key payload others ending =>
    obtain ⟨inner, hinner, h⟩ := bind_eq_ok_iff.mp h
    obtain ⟨name, hname, h⟩ := bind_eq_ok_iff.mp h
    obtain ⟨value, hread, h⟩ := bind_eq_ok_iff.mp h
    obtain ⟨⟨⟩, hclose, h⟩ := bind_eq_ok_iff.mp h
    cases h
    obtain ⟨rfl, rfl⟩ := closeVariant_eq_ok hclose
    cases hinner
    obtain ⟨rfl, hmem⟩ := readVariantKey_eq_ok hname
    exact ⟨name, hmem, .inr ⟨payload, rfl, hread⟩⟩
  · cases h

theorem noPayload_eq_ok {value a : α} {source : Source} {payload : Json}
    (h : noPayload value (some (source, payload)) = .ok a) : payload = .null ∧ value = a := by
  obtain ⟨⟨⟩, hunit, h⟩ := bind_eq_ok_iff.mp h
  cases h
  exact ⟨readUnit_eq_ok_iff.mp hunit, rfl⟩

end Json

namespace Form

variable {form : Form σ α} {source : Source} {f : Field σ}

/-! ### Records -/

theorem exists_keyed {members : List (Json × Json)} {s u : σ}
    (hread : form.readMembers source members s = .ok u) :
    ∃ named : List (String × Json), members = Json.keyed named := by
  induction members generalizing s with
  | nil => exact ⟨[], rfl⟩
  | cons member rest ih =>
    obtain ⟨t, htakes, hrest⟩ := readMembers_cons_eq_ok.mp hread
    obtain ⟨named, rfl⟩ := ih hrest
    cases htakes with
    | @field name _ value | @unknown name value => exact ⟨(name, value) :: named, rfl⟩

/-- A member shows in its own field only. -/
theorem isFilled_eq_of_takes (h : form.IsOrderless) (hf : f ∈ form.fields) {name : String}
    {value : Json} {s t : σ} (htakes : form.Takes source (.str name, value) s t)
    (hfind : form.fields.find? (·.answersTo name) ≠ some f) : f.isFilled t = f.isFilled s := by
  cases htakes with
  | unknown => rfl
  | @field _ g _ _ _ hg _ hfill =>
    have hne : g ≠ f := by
      rintro rfl
      exact hfind hg
    exact (h.apart_of_ne (List.mem_of_find?_eq_some hg) hf hne).keeps hfill

theorem isFilled_of_takes (h : form.IsOrderless) (hf : f ∈ form.fields) {name : String}
    {value : Json} {s t : σ} (htakes : form.Takes source (.str name, value) s t)
    (hs : f.isFilled s = true) : f.isFilled t = true := by
  by_cases hfind : form.fields.find? (·.answersTo name) = some f
  · exact h.fills f hf ((takes_iff_of_find? hfind).mp htakes).2
  · rw [isFilled_eq_of_takes h hf htakes hfind]
    exact hs

theorem isFilled_of_readMembers (h : form.IsOrderless) (hf : f ∈ form.fields)
    {members : List (String × Json)} {s u : σ}
    (hread : form.readMembers source (Json.keyed members) s = .ok u) (hs : f.isFilled s = true) :
    f.isFilled u = true := by
  induction members generalizing s with
  | nil =>
    cases hread
    exact hs
  | cons member rest ih =>
    obtain ⟨t, htakes, hrest⟩ := readMembers_cons_eq_ok.mp hread
    exact ih hrest (isFilled_of_takes h hf htakes hs)

/-- Members that fill no field are none of the fields. -/
theorem unknown_of_isFilled (h : form.IsOrderless) {members : List (String × Json)} {s u : σ}
    (hread : form.readMembers source (Json.keyed members) s = .ok u)
    (hfilled : ∀ f ∈ form.fields, f.isFilled u = true → f.isFilled s = true) :
    s = u ∧ ∀ member ∈ members, member.1 ∉ form.keys := by
  induction members with
  | nil =>
    cases hread
    exact ⟨rfl, nofun⟩
  | cons member rest ih =>
    obtain ⟨t, htakes, hrest⟩ := readMembers_cons_eq_ok.mp hread
    cases htakes with
    | @field _ f _ _ _ hf hvacant hfill =>
      have hmem := List.mem_of_find?_eq_some hf
      have hlast := isFilled_of_readMembers h hmem hrest (h.fills f hmem hfill)
      rw [hfilled f hmem hlast] at hvacant
      cases hvacant
    | unknown hfind =>
      obtain ⟨hsame, hunknown⟩ := ih hrest
      exact ⟨hsame, List.forall_mem_cons.mpr ⟨find?_answersTo_eq_none_iff.mp hfind, hunknown⟩⟩

/-- A field that is filled was filled by a member, which may as well stand first. -/
theorem exists_first_of_isFilled (h : form.IsOrderless) (hf : f ∈ form.fields)
    {members : List (String × Json)} {s u : σ}
    (hread : form.readMembers source (Json.keyed members) s = .ok u) (hs : f.isFilled s = false)
    (hu : f.isFilled u = true) :
    ∃ member rest, members.Perm (member :: rest) ∧
      form.fields.find? (·.answersTo member.1) = some f := by
  induction members generalizing s with
  | nil =>
    cases hread
    rw [hs] at hu
    cases hu
  | cons first members ih =>
    obtain ⟨t, htakes, hrest⟩ := readMembers_cons_eq_ok.mp hread
    by_cases hfind : form.fields.find? (·.answersTo first.1) = some f
    · exact ⟨first, members, .refl _, hfind⟩
    · rw [← isFilled_eq_of_takes h hf htakes hfind] at hs
      obtain ⟨member, rest, hperm, hmember⟩ := ih hrest hs
      exact ⟨member, first :: rest, (hperm.cons first).trans (.swap _ _ _), hmember⟩

/-- Members for some of the fields, in the order of these, may as well stand before all others. -/
theorem exists_front (h : form.IsOrderless) {fields : List (Field σ)}
    (hfields : ∀ f ∈ fields, f ∈ form.fields) (hapart : fields.Pairwise Field.Apart)
    {members : List (String × Json)} {s u : σ}
    (hread : form.readMembers source (Json.keyed members) s = .ok u)
    (hvacant : ∀ f ∈ fields, f.isFilled s = false) :
    ∃ front rest t, members.Perm (front ++ rest) ∧
      form.readMembers source (Json.keyed front) s = .ok t ∧
      form.readMembers source (Json.keyed rest) t = .ok u ∧
      form.MembersFor (fields.filter (·.isFilled u)) front ∧
      ∀ f ∈ fields, f.isFilled u = true → f.isFilled t = true := by
  induction fields generalizing members s with
  | nil => exact ⟨[], members, s, .refl _, rfl, hread, rfl, nofun⟩
  | cons f fields ih =>
    rw [List.forall_mem_cons] at hfields hvacant
    rw [List.pairwise_cons] at hapart
    cases hu : f.isFilled u with
    | false =>
      obtain ⟨front, rest, t, hperm, hfront, hrest, hfor, hfilled⟩ :=
        ih hfields.2 hapart.2 hread hvacant.2
      refine ⟨front, rest, t, hperm, hfront, hrest, ?_, ?_⟩
      · simpa only [List.filter_cons, hu, Bool.false_eq_true, if_false] using hfor
      · rw [List.forall_mem_cons]
        exact ⟨fun htrue => absurd htrue (by simp [hu]), hfilled⟩
    | true =>
      obtain ⟨member, others, hperm, hfind⟩ :=
        exists_first_of_isFilled h hfields.1 hread hvacant.1 hu
      have hread' := readMembers_perm h (hperm.map _) hread
      obtain ⟨t, htakes, hothers⟩ := readMembers_cons_eq_ok.mp hread'
      obtain ⟨-, hfill⟩ := (takes_iff_of_find? hfind).mp htakes
      have hvacant' : ∀ g ∈ fields, g.isFilled t = false := by
        intro g hg
        rw [(hapart.1 g hg).keeps hfill]
        exact hvacant.2 g hg
      obtain ⟨front, rest, v, hperm', hfront, hrest, hfor, hfilled⟩ :=
        ih hfields.2 hapart.2 hothers hvacant'
      refine ⟨member :: front, rest, v, hperm.trans (hperm'.cons member),
        readMembers_cons_eq_ok.mpr ⟨t, htakes, hfront⟩, hrest, ?_, ?_⟩
      · rw [MembersFor] at hfor ⊢
        simp only [List.map_cons, hfind, List.filter_cons, hu, if_true, hfor]
      · rw [List.forall_mem_cons]
        have hft := h.fills f hfields.1 hfill
        exact ⟨fun _ => isFilled_of_readMembers h hfields.1 hfront hft, hfilled⟩

/-- An object that was read has one member for each field that is filled, in any order, and besides
them only members for none. -/
theorem exists_carries (h : form.IsOrderless) {members : List (String × Json)}
    (hwhole : ∀ member ∈ members, member.2.IsWhole) {u : σ}
    (hread : form.readMembers source (Json.keyed members) form.blank = .ok u) :
    ∃ listed, form.MembersFor (form.fields.filter (·.isFilled u)) listed ∧
      Json.Carries form.keys listed members ∧
      readItems source (form.fields.filter (·.isFilled u)) (listed.map (·.2)) form.blank =
        .ok (u, 0) := by
  obtain ⟨front, rest, t, hperm, hfront, hrest, hfor, hfilled⟩ :=
    exists_front h (fun _ hf => hf) h.apart hread h.vacant
  obtain ⟨rfl, hunknown⟩ := unknown_of_isFilled h hrest hfilled
  refine ⟨front, hfor, ⟨rest, hperm, ?_⟩, ?_⟩
  · intro member hmember
    have hmem := hperm.mem_iff.mpr (List.mem_append_right front hmember)
    exact ⟨hunknown member hmember, hwhole member hmem⟩
  · refine (readMembers_iff_readItems (h.apart.filter _) hfor ?_).mp hfront
    exact fun f hf => h.vacant f (List.mem_filter.mp hf).1

/-- The first of the members for some fields has the key of the first of these. -/
theorem MembersFor.exists_cons {fields : List (Field σ)} {members : List (String × Json)}
    (hfor : form.MembersFor (f :: fields) members) (hother : f.otherKey = none) :
    ∃ value rest, members = (f.key, value) :: rest ∧ form.MembersFor fields rest := by
  obtain ⟨⟨name, value⟩, rest, rfl, hfind, hrest⟩ := List.map_eq_cons_iff.mp hfor
  have hanswers := List.find?_some hfind
  have hkey : f.key = name := by simpa [Field.answersTo, hother] using hanswers
  exact ⟨value, rest, by rw [hkey], hrest⟩

theorem length_of_readItems {fields : List (Field σ)} {items : List Json} {s t : σ}
    (hitems : readItems source fields items s = .ok (t, 0)) (hle : fields.length ≤ items.length) :
    items.length = fields.length := by
  induction fields generalizing items s with
  | nil =>
    simp only [readItems, Except.ok.injEq, Prod.mk.injEq] at hitems
    exact hitems.2
  | cons f fields ih =>
    cases items with
    | nil => exact absurd hle (by simp)
    | cons item rest =>
      obtain ⟨t, -, hrest⟩ := readItems_cons_eq_ok.mp hitems
      rw [List.length_cons, List.length_cons, ih hrest (Nat.le_of_succ_le_succ hle)]

/-- A record was read from an object or from an array. -/
theorem read_eq_ok (h : form.IsOrderless) {json : Json} (hwhole : json.IsWhole) {a : α}
    (hread : form.read .value json = .ok a) :
    ∃ s, form.finish s = .ok a ∧
      ((∃ members listed, json = .ofMembers members ∧
          form.MembersFor (form.fields.filter (·.isFilled s)) listed ∧
          Json.Carries form.keys listed members ∧
          readItems .value (form.fields.filter (·.isFilled s)) (listed.map (·.2)) form.blank =
            .ok (s, 0)) ∨
        ∃ items, json = .ofItems items ∧ form.least ≤ items.length ∧
          readItems .value form.fields items form.blank = .ok (s, 0)) := by
  unfold read at hread
  split at hread
  · next members ending =>
    obtain ⟨inner, hinner, hread⟩ := bind_eq_ok_iff.mp hread
    cases hinner
    obtain ⟨s, hmembers, hread⟩ := bind_eq_ok_iff.mp hread
    obtain ⟨⟨⟩, hending, hfinish⟩ := bind_eq_ok_iff.mp hread
    rw [Ending.check_eq_ok_iff] at hending
    obtain rfl := hending
    obtain ⟨named, rfl⟩ := exists_keyed hmembers
    obtain ⟨listed, hlisted⟩ := exists_carries h (Json.isWhole_ofMembers_iff.mp hwhole) hmembers
    exact ⟨s, hfinish, .inl ⟨named, listed, rfl, hlisted⟩⟩
  · next items ending =>
    obtain ⟨inner, hinner, hread⟩ := bind_eq_ok_iff.mp hread
    cases hinner
    obtain ⟨⟨s, surplus⟩, hitems, hread⟩ := bind_eq_ok_iff.mp hread
    dsimp only at hread
    split at hread
    · next hsurplus =>
      obtain rfl := hsurplus
      obtain ⟨⟨⟩, hending, hread⟩ := bind_eq_ok_iff.mp hread
      rw [Ending.check_eq_ok_iff] at hending
      obtain rfl := hending
      split at hread
      · cases hread
      · next hleast => exact ⟨s, hread, .inr ⟨items, rfl, Nat.not_lt.mp hleast, hitems⟩⟩
    · cases hread
  · cases hread

end Form

end Scaffold
