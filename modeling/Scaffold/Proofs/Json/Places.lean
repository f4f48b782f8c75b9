import Mathlib.Data.List.Nodup
import Scaffold.Proofs.Json.Given

/-!
# Places of a record

What has been read of a record has a place for each of its fields, which filling another field does
not touch (`Form.HasPlaces`). So a record is read field by field: each place holds in the end what
is read of the one value that the members give for its field (`Form.HasPlaces.heldAs`), and reading
fails just if that value cannot be read or is not the only one
(`Form.HasPlaces.exists_readMembers`).
-/

namespace Scaffold

variable {σ α β γ : Type}

/-! ### Places -/

/-- Where a record keeps what is read for one of its fields. -/
structure Place (σ β : Type) where
  key : String
  otherKey : Option String := none
  read : Source → Json → Except DecodeError β
  get : σ → Option β
  set : β → σ → σ

namespace Place

/-- The field that fills the place. -/
def field (p : Place σ β) : Field σ where
  key := p.key
  otherKey := p.otherKey
  isFilled s := (p.get s).isSome
  fill source json s := return p.set (← p.read source json) s

def keys (p : Place σ β) : List String := p.key :: p.otherKey.toList

theorem field_sets (p : Place σ β) : p.field.Sets p.read p.set := fun _ _ _ => rfl

theorem answersTo_iff {p : Place σ β} {name : String} :
    p.field.answersTo name = true ↔ name ∈ p.keys := by
  simp only [Field.answersTo, field, keys, List.mem_cons, Option.mem_toList, Bool.or_eq_true,
    beq_iff_eq, @eq_comm _ name]

/-- Two places that have nothing to do with one another. -/
structure Apart (p : Place σ β) (q : Place σ γ) : Prop where
  get_set : ∀ b s, q.get (p.set b s) = q.get s
  get_set' : ∀ c s, p.get (q.set c s) = p.get s
  comm : ∀ b c s, q.set c (p.set b s) = p.set b (q.set c s)

theorem Apart.symm {p : Place σ β} {q : Place σ γ} (h : p.Apart q) : q.Apart p where
  get_set := h.get_set'
  get_set' := h.get_set
  comm c b s := (h.comm b c s).symm

theorem Apart.field {p : Place σ β} {q : Place σ γ} (h : p.Apart q) : p.field.Apart q.field :=
  p.field_sets.apart q.field_sets (fun b s => congrArg Option.isSome (h.get_set b s))
    (fun c s => congrArg Option.isSome (h.get_set' c s)) h.comm

end Place

namespace Json

/-- What a place holds after the values for its field have been read. -/
inductive HeldAs (read : Json → Except DecodeError β) : List Json → Option β → Prop
  | none : HeldAs read [] none
  | one {json : Json} {b : β} (h : read json = .ok b) : HeldAs read [json] (some b)

/-- If a reader follows what values mean, a place holds what they settle. -/
theorem HeldAs.settles_iff {read : Json → Except DecodeError β} {values : List Json}
    {held : Option β} (h : HeldAs read values held) {means : Json → β → Prop}
    (hmeans : ∀ json ∈ values, ∀ b, read json = .ok b ↔ means json b) {default b : β} :
    Settles means default values b ↔ held.getD default = b := by
  cases h with
  | none =>
    constructor
    · rintro ⟨⟩
      rfl
    · rintro rfl
      exact .absent
  | @one json c h =>
    constructor
    · rintro ⟨hjson⟩
      exact Except.ok.inj (h.symm.trans ((hmeans json (.head _) b).mpr hjson))
    · rintro rfl
      exact .given ((hmeans json (.head _) c).mp h)

theorem Settles.exists_heldAs {read : Json → Except DecodeError β} {values : List Json}
    {means : Json → β → Prop} (hmeans : ∀ json ∈ values, ∀ b, read json = .ok b ↔ means json b)
    {default b : β} (h : Settles means default values b) : ∃ held, HeldAs read values held := by
  cases h with
  | @given json b hjson => exact ⟨some b, .one ((hmeans json (.head _) b).mpr hjson)⟩
  | absent => exact ⟨none, .none⟩

theorem HeldAs.unique {read : Json → Except DecodeError β} {values : List Json}
    {held held' : Option β} (h : HeldAs read values held) (h' : HeldAs read values held') :
    held = held' := by
  cases h with
  | none =>
    cases h'
    rfl
  | one h =>
    cases h' with
    | one h' => rw [Except.ok.inj (h.symm.trans h')]

theorem exists_heldAs_iff {read : Json → Except DecodeError β} {values : List Json} :
    (∃ held, HeldAs read values held) ↔
      values.length < 2 ∧ ∀ value ∈ values, ∃ b, read value = .ok b := by
  constructor
  · rintro ⟨_, ⟨⟩ | ⟨hb⟩⟩
    · exact ⟨by decide, nofun⟩
    · exact ⟨by simp, List.forall_mem_singleton.mpr ⟨_, hb⟩⟩
  · rintro ⟨hlength, hread⟩
    match values with
    | [] => exact ⟨none, .none⟩
    | [value] =>
      obtain ⟨b, hb⟩ := hread value (.head _)
      exact ⟨some b, .one hb⟩
    | _ :: _ :: rest => exact absurd hlength (by simp)

/-- Of values that are alike one by one the same is read. -/
theorem HeldAs.of_pairs {read : Json → Except DecodeError β} {values values' : List Json}
    {held : Option β} (h : HeldAs read values held) {pairs : List (Json × Json)}
    (hfirst : values.Perm (pairs.map (·.1))) (hsecond : values'.Perm (pairs.map (·.2)))
    (hread : ∀ pair ∈ pairs, ∀ b, read pair.1 = .ok b → read pair.2 = .ok b) :
    HeldAs read values' held := by
  cases h with
  | none =>
    obtain rfl := List.map_eq_nil_iff.mp hfirst.nil_eq.symm
    obtain rfl := hsecond.eq_nil
    exact .none
  | @one json b h =>
    obtain ⟨pair, rfl, rfl⟩ := List.map_eq_singleton_iff.mp hfirst.singleton_eq.symm
    obtain rfl := hsecond.eq_singleton
    exact .one (hread pair (.head _) b h)

end Json

namespace Form

/-- The fields of a form have these places, one each. -/
structure HasPlaces (form : Form σ α) (places : List (Σ β, Place σ β)) : Prop where
  fields_eq : form.fields = places.map (·.2.field)
  nodup : form.keys.Nodup
  vacant : ∀ p ∈ places, p.2.get form.blank = none
  get_set : ∀ p ∈ places, ∀ b s, p.2.get (p.2.set b s) = some b
  apart : places.Pairwise fun p q => p.2.Apart q.2

namespace HasPlaces

variable {form : Form σ α} {places : List (Σ β, Place σ β)} {source : Source}
variable {p q : Σ β, Place σ β} {name : String} {s t u : σ}

theorem keys_eq (h : form.HasPlaces places) : form.keys = places.flatMap (·.2.keys) := by
  rw [keys, h.fields_eq, List.flatMap_map]
  rfl

theorem mem_keys (h : form.HasPlaces places) (hp : p ∈ places) (hname : name ∈ p.2.keys) :
    name ∈ form.keys := by
  rw [h.keys_eq]
  exact List.mem_flatMap.mpr ⟨p, hp, hname⟩

theorem eq_of_mem_keys (h : form.HasPlaces places) (hp : p ∈ places) (hq : q ∈ places)
    (hname : name ∈ p.2.keys) (hname' : name ∈ q.2.keys) : p = q := by
  have hnodup := h.nodup
  rw [h.keys_eq, List.nodup_flatMap] at hnodup
  by_contra hne
  have hsymm : Std.Symm (Function.onFun List.Disjoint fun p : Σ β, Place σ β => p.2.keys) :=
    ⟨fun _ _ hdisjoint _ hfirst hsecond => hdisjoint hsecond hfirst⟩
  exact hnodup.2.forall hp hq hne hname hname'

theorem apart_of_ne (h : form.HasPlaces places) (hp : p ∈ places) (hq : q ∈ places) (hne : p ≠ q) :
    p.2.Apart q.2 := by
  have hsymm : Std.Symm fun p q : Σ β, Place σ β => p.2.Apart q.2 := ⟨fun _ _ => Place.Apart.symm⟩
  exact h.apart.forall hp hq hne

theorem exists_place (h : form.HasPlaces places) {f : Field σ}
    (hfind : form.fields.find? (·.answersTo name) = some f) :
    ∃ p ∈ places, name ∈ p.2.keys ∧ f = p.2.field := by
  have hmem := List.mem_of_find?_eq_some hfind
  rw [h.fields_eq] at hmem
  obtain ⟨p, hp, rfl⟩ := List.mem_map.mp hmem
  exact ⟨p, hp, Place.answersTo_iff.mp (by simpa using List.find?_some hfind), rfl⟩

theorem find?_eq (h : form.HasPlaces places) (hp : p ∈ places) (hname : name ∈ p.2.keys) :
    form.fields.find? (·.answersTo name) = some p.2.field := by
  cases hfind : form.fields.find? (·.answersTo name) with
  | none => exact absurd (h.mem_keys hp hname) (find?_answersTo_eq_none_iff.mp hfind)
  | some f =>
    obtain ⟨q, hq, hname', rfl⟩ := h.exists_place hfind
    rw [h.eq_of_mem_keys hp hq hname hname']

theorem isOrderless (h : form.HasPlaces places) : form.IsOrderless where
  vacant := by
    rw [h.fields_eq, List.forall_mem_map]
    intro p hp
    exact congrArg Option.isSome (h.vacant p hp)
  fills := by
    rw [h.fields_eq, List.forall_mem_map]
    intro p hp
    exact p.2.field_sets.fills fun b s => congrArg Option.isSome (h.get_set p hp b s)
  apart := by
    rw [h.fields_eq, List.pairwise_map]
    exact h.apart.imp Place.Apart.field

/-! ### One member -/

/-- A member under a key of the field fills its place, which is empty before. -/
theorem takes_iff (h : form.HasPlaces places) (hp : p ∈ places) (hname : name ∈ p.2.keys)
    {value : Json} :
    form.Takes source (.str name, value) s t ↔
      p.2.get s = none ∧ ∃ b, p.2.read source value = .ok b ∧ p.2.set b s = t := by
  rw [takes_iff_of_find? (h.find?_eq hp hname), p.2.field_sets.fill_eq_ok]
  exact and_congr_left' (Option.isSome_eq_false_iff.trans Option.isNone_iff_eq_none)

/-- A member under any other key does not touch the place. -/
theorem get_eq_of_takes (h : form.HasPlaces places) (hp : p ∈ places) (hname : name ∉ p.2.keys)
    {value : Json} (htakes : form.Takes source (.str name, value) s t) : p.2.get t = p.2.get s := by
  cases htakes with
  | unknown => rfl
  | field hfind hvacant hfill =>
    obtain ⟨q, hq, hname', rfl⟩ := h.exists_place hfind
    obtain ⟨b, -, rfl⟩ := q.2.field_sets.fill_eq_ok.mp hfill
    have hne : q ≠ p := by
      rintro rfl
      exact hname hname'
    exact (h.apart_of_ne hq hp hne).get_set b s

/-! ### All members -/

/-- A place that is filled stays as it is, and there is no member for it. -/
theorem given_eq_nil (h : form.HasPlaces places) (hp : p ∈ places) {members : List (String × Json)}
    (hread : form.readMembers source (Json.keyed members) s = .ok u) {b : p.1}
    (hs : p.2.get s = some b) : Json.given p.2.keys members = [] ∧ p.2.get u = some b := by
  induction members generalizing s with
  | nil =>
    cases hread
    exact ⟨rfl, hs⟩
  | cons member rest ih =>
    obtain ⟨t, htakes, hrest⟩ := readMembers_cons_eq_ok.mp hread
    by_cases hname : member.1 ∈ p.2.keys
    · rw [((h.takes_iff hp hname).mp htakes).1] at hs
      cases hs
    · rw [Json.given_cons_of_not_mem hname]
      exact ih hrest ((h.get_eq_of_takes hp hname htakes).trans hs)

/-- What a place holds in the end, if it is empty at the start. -/
theorem heldAs (h : form.HasPlaces places) (hp : p ∈ places) {members : List (String × Json)}
    (hread : form.readMembers source (Json.keyed members) s = .ok u) (hs : p.2.get s = none) :
    Json.HeldAs (p.2.read source) (Json.given p.2.keys members) (p.2.get u) := by
  induction members generalizing s with
  | nil =>
    cases hread
    rw [hs]
    exact .none
  | cons member rest ih =>
    obtain ⟨t, htakes, hrest⟩ := readMembers_cons_eq_ok.mp hread
    by_cases hname : member.1 ∈ p.2.keys
    · -- this member fills the place, so no later one is for it
      obtain ⟨-, b, hb, rfl⟩ := (h.takes_iff hp hname).mp htakes
      obtain ⟨hnone, hu⟩ := h.given_eq_nil hp hrest (h.get_set p hp b s)
      rw [Json.given_cons_of_mem hname, hnone, hu]
      exact .one hb
    · rw [Json.given_cons_of_not_mem hname]
      exact ih hrest ((h.get_eq_of_takes hp hname htakes).trans hs)

/-- Members can be read if for each place they have nothing, or it is empty and they have one value
for it that can be read. -/
theorem exists_readMembers_of (h : form.HasPlaces places) {members : List (String × Json)}
    (hskip : ∀ member ∈ members, member.2.skip = .closed)
    (hplaces : ∀ p ∈ places, Json.given p.2.keys members = [] ∨
      p.2.get s = none ∧ ∃ held, Json.HeldAs (p.2.read source) (Json.given p.2.keys members) held) :
    ∃ u, form.readMembers source (Json.keyed members) s = .ok u := by
  induction members generalizing s with
  | nil => exact ⟨s, rfl⟩
  | cons member rest ih =>
    rw [List.forall_mem_cons] at hskip
    suffices hstep : ∃ t, form.Takes source (.str member.1, member.2) s t ∧ ∀ p ∈ places,
        Json.given p.2.keys rest = [] ∨ p.2.get t = none ∧
          ∃ held, Json.HeldAs (p.2.read source) (Json.given p.2.keys rest) held by
      obtain ⟨t, htakes, ht⟩ := hstep
      obtain ⟨u, hu⟩ := ih hskip.2 ht
      exact ⟨u, readMembers_cons_eq_ok.mpr ⟨t, htakes, hu⟩⟩
    by_cases hknown : ∃ q ∈ places, member.1 ∈ q.2.keys
    · -- the place of its field is still empty, and it is the last member for it
      obtain ⟨q, hq, hname⟩ := hknown
      obtain ⟨hempty, held, hheld⟩ :=
        (hplaces q hq).resolve_left (by simp [Json.given_cons_of_mem hname])
      rw [Json.given_cons_of_mem hname] at hheld
      generalize hrest : Json.given q.2.keys rest = values at hheld
      cases hheld with
      | @one _ b hb =>
        refine ⟨q.2.set b s, (h.takes_iff hq hname).mpr ⟨hempty, b, hb, rfl⟩, fun p hp => ?_⟩
        by_cases hne : q = p
        · exact .inl (hne ▸ hrest)
        · have hother : member.1 ∉ p.2.keys := fun hname' =>
            hne (h.eq_of_mem_keys hq hp hname hname')
          rw [(h.apart_of_ne hq hp hne).get_set b s, ← Json.given_cons_of_not_mem hother]
          exact hplaces p hp
    · -- a member of no field is skipped
      push Not at hknown
      have hfind : form.fields.find? (·.answersTo member.1) = none := by
        rw [find?_answersTo_eq_none_iff, h.keys_eq, List.mem_flatMap]
        rintro ⟨p, hp, hname⟩
        exact hknown p hp hname
      refine ⟨s, .unknown hfind hskip.1, fun p hp => ?_⟩
      rw [← Json.given_cons_of_not_mem (hknown p hp)]
      exact hplaces p hp

theorem exists_readMembers (h : form.HasPlaces places) {members : List (String × Json)}
    (hskip : ∀ member ∈ members, member.2.skip = .closed) :
    (∃ u, form.readMembers source (Json.keyed members) form.blank = .ok u) ↔
      ∀ p ∈ places, ∃ held,
        Json.HeldAs (p.2.read source) (Json.given p.2.keys members) held := by
  constructor
  · rintro ⟨u, hu⟩ p hp
    exact ⟨p.2.get u, h.heldAs hp hu (h.vacant p hp)⟩
  · intro hheld
    exact h.exists_readMembers_of hskip fun p hp => .inr ⟨h.vacant p hp, hheld p hp⟩

end HasPlaces

/-! ### Arrays -/

theorem readItems_take {source : Source} {fields : List (Field σ)} {items : List Json}
    (hlength : items.length ≤ fields.length) (s : σ) :
    readItems source (fields.take items.length) items s = readItems source fields items s := by
  induction items generalizing fields s with
  | nil => cases fields <;> rfl
  | cons item rest ih =>
    cases fields with
    | nil => simp at hlength
    | cons f fields =>
      rw [List.length_cons, List.length_cons, Nat.add_le_add_iff_right] at hlength
      rw [List.length_cons, List.take_succ_cons, readItems, readItems]
      exact congrArg (f.fill source item s >>= ·) (funext fun t => ih hlength t)

theorem length_le_of_readItems {source : Source} {fields : List (Field σ)} {items : List Json}
    {s t : σ} (hitems : readItems source fields items s = .ok (t, 0)) :
    items.length ≤ fields.length := by
  rcases Nat.le_total items.length fields.length with hle | hle
  · exact hle
  · exact Nat.le_of_eq (length_of_readItems hitems hle)

namespace HasPlaces

variable {form : Form σ α} {places : List (Σ β, Place σ β)} {source inner : Source}

theorem find?_key (h : form.HasPlaces places) :
    (places.map (·.2.key)).map (fun name => form.fields.find? (·.answersTo name)) =
      form.fields.map some := by
  rw [h.fields_eq, List.map_map, List.map_map, ← h.fields_eq]
  apply List.map_congr_left
  intro p hp
  exact h.find?_eq hp (.head _)

/-- The items of an array are read as the members of the object that it stands for. -/
theorem readItems_iff (h : form.HasPlaces places) {members : List (String × Json)}
    (hkeys : members.map (·.1) <+: places.map (·.2.key)) {u : σ} :
    readItems source form.fields (members.map (·.2)) form.blank = .ok (u, 0) ↔
      form.readMembers source (Json.keyed members) form.blank = .ok u := by
  have hlength : members.length ≤ form.fields.length := by
    simpa [h.fields_eq] using hkeys.length_le
  have hfor : form.MembersFor (form.fields.take members.length) members := by
    have hnames := List.prefix_iff_eq_take.mp hkeys
    rw [List.length_map] at hnames
    change members.map ((fun name => form.fields.find? (·.answersTo name)) ∘ (·.1)) = _
    rw [← List.map_map, hnames, List.map_take, h.find?_key, List.map_take]
  have htake := @readItems_take _ source form.fields (members.map (·.2)) (by simpa using hlength)
    form.blank
  rw [List.length_map] at htake
  rw [← htake, readMembers_iff_readItems (h.isOrderless.apart.sublist (List.take_sublist _ _)) hfor]
  exact fun f hf => h.isOrderless.vacant f (List.mem_of_mem_take hf)

theorem filterMap_head?_keys (places : List (Σ β, Place σ β)) :
    (places.map (·.2.keys)).filterMap List.head? = places.map (·.2.key) := by
  rw [List.filterMap_map, ← List.filterMap_eq_map]
  rfl

/-- The items of an array stand for members if they are no more than the fields. -/
theorem hasMembers_array {items : List Json} (hlength : items.length ≤ places.length) :
    ∃ members : List (String × Json), members.map (·.1) <+: places.map (·.2.key) ∧
      members.map (·.2) = items := by
  refine ⟨((places.map (·.2.key)).take items.length).zip items, ?_, List.map_snd_zip ?_⟩
  · rw [List.map_fst_zip (List.length_take_le _ _)]
    exact List.take_prefix _ _
  · simp [Nat.min_eq_left hlength]

/-- A record is read from its members, be it written as an object or as an array. -/
theorem read_eq_ok_iff (h : form.HasPlaces places) (hleast : form.least = 0)
    (hsource : source.enter = .ok inner) {json : Json} {a : α} :
    form.read source json = .ok a ↔
      ∃ members s, Json.HasMembers (places.map (·.2.keys)) json members ∧
        form.readMembers inner (Json.keyed members) form.blank = .ok s ∧ form.finish s = .ok a := by
  constructor
  · intro hread
    unfold read at hread
    split at hread
    · next members ending =>
      simp only [hsource, bind_eq_ok_iff, Except.ok.injEq, exists_eq_left'] at hread
      obtain ⟨s, hmembers, ⟨⟩, hending, hfinish⟩ := hread
      rw [Ending.check_eq_ok_iff] at hending
      obtain rfl := hending
      obtain ⟨named, rfl⟩ := exists_keyed hmembers
      exact ⟨named, s, .object named, hmembers, hfinish⟩
    · next items ending =>
      simp only [hsource, bind_eq_ok_iff, Except.ok.injEq, exists_eq_left'] at hread
      obtain ⟨⟨s, surplus⟩, hitems, hbehind⟩ := hread
      split at hbehind
      · next hsurplus =>
        obtain rfl : surplus = 0 := hsurplus
        obtain ⟨⟨⟩, hending, hfinish⟩ := bind_eq_ok_iff.mp hbehind
        rw [Ending.check_eq_ok_iff] at hending
        rw [hleast, if_neg (Nat.not_lt_zero _)] at hfinish
        have hlength := length_le_of_readItems hitems
        rw [h.fields_eq, List.length_map] at hlength
        obtain ⟨members, hnames, rfl⟩ := hasMembers_array hlength
        rw [hending]
        exact ⟨members, s, .array (by rwa [filterMap_head?_keys]),
          (h.readItems_iff hnames).mp hitems, hfinish⟩
      · cases source <;> cases hbehind
    · cases hread
  · rintro ⟨members, s, hmembers, hread, hfinish⟩
    cases hmembers with
    | object =>
      change (source.enter >>= fun source =>
        form.readMembers source (Json.keyed members) form.blank >>= fun s =>
          Ending.closed.check >>= fun _ => form.finish s) = _
      simp only [hsource, hread, hfinish, Ending.check, bind, Except.bind]
    | array hkeys =>
      rw [filterMap_head?_keys] at hkeys
      have hitems := (h.readItems_iff hkeys).mpr hread
      simp only [Json.ofItems, read, hsource, Ending.check, bind, Except.bind, hitems, if_true,
        hleast, if_neg (Nat.not_lt_zero _), hfinish]

/-- A record is read from what means it, if that is so of the places of its fields. -/
theorem read_eq_ok_iff_meant (h : form.HasPlaces places) (hleast : form.least = 0)
    (hsource : source.enter = .ok inner) {means : List (String × Json) → α → Prop}
    (hfinish : ∀ {members s a}, (∀ member ∈ members, member.2.skip = .closed) →
      (∀ p ∈ places, Json.HeldAs (p.2.read inner) (Json.given p.2.keys members) (p.2.get s)) →
      (form.finish s = .ok a ↔ means members a))
    (hheld : ∀ {members a}, (∀ member ∈ members, member.2.skip = .closed) → means members a →
      ∀ p ∈ places, ∃ held,
        Json.HeldAs (p.2.read inner) (Json.given p.2.keys members) held)
    {json : Json} (hskip : json.skip = .closed) {a : α} :
    form.read source json = .ok a ↔
      ∃ members, Json.HasMembers (places.map (·.2.keys)) json members ∧ means members a := by
  have hplaces : ∀ {members s}, form.readMembers inner (Json.keyed members) form.blank = .ok s →
      ∀ p ∈ places, Json.HeldAs (p.2.read inner) (Json.given p.2.keys members) (p.2.get s) :=
    fun hread p hp => h.heldAs hp hread (h.vacant p hp)
  rw [h.read_eq_ok_iff hleast hsource]
  apply exists_congr
  intro members
  constructor
  · rintro ⟨s, hmembers, hread, hs⟩
    exact ⟨hmembers, (hfinish (hmembers.skip_eq hskip) (hplaces hread)).mp hs⟩
  · rintro ⟨hmembers, hmeans⟩
    have hvalues := hmembers.skip_eq hskip
    obtain ⟨s, hread⟩ := (h.exists_readMembers hvalues).mpr (hheld hvalues hmeans)
    exact ⟨s, hmembers, hread, (hfinish hvalues (hplaces hread)).mpr hmeans⟩

/-! ### Repeated fields -/

variable {parts : List ((Σ β, Place σ β) × Shape)} {members : List (String × Json)}

/-- Members of the right type can be read if they repeat no field, at any level. -/
theorem exists_readMembers_iff (h : form.HasPlaces (parts.map (·.1)))
    (hparts : ∀ part ∈ parts, Json.TakenBy (part.1.2.read source) part.2)
    (hskip : ∀ member ∈ members, member.2.skip = .closed)
    (hfits : ∀ part ∈ parts, ∀ value ∈ Json.given part.1.2.keys members,
      Json.Fits part.2 value) :
    (∃ u, form.readMembers source (Json.keyed members) form.blank = .ok u) ↔
      ¬∃ part ∈ parts, 2 ≤ (Json.given part.1.2.keys members).length ∨
        ∃ value ∈ Json.given part.1.2.keys members, Json.Repeats part.2 value := by
  rw [h.exists_readMembers hskip, List.forall_mem_map]
  push Not
  apply forall₂_congr
  intro part hpart
  rw [Json.exists_heldAs_iff, ← Nat.not_le]
  apply and_congr_right'
  apply forall₂_congr
  intro value hvalue
  obtain ⟨key, -, hmember⟩ := Json.mem_given_iff.mp hvalue
  exact hparts part hpart value (hskip _ hmember) (hfits part hpart value hvalue)

/-- A record that needs no field is taken if its fields are. -/
theorem takenBy_read (h : form.HasPlaces (parts.map (·.1))) (hleast : form.least = 0)
    (hsource : source.enter = .ok inner) (hfinish : ∀ s, ∃ a, form.finish s = .ok a)
    (hparts : ∀ part ∈ parts, Json.TakenBy (part.1.2.read inner) part.2) :
    Json.TakenBy (form.read source) (.record (parts.map fun part => (part.1.2.keys, part.2))) := by
  intro json hskip hfits
  cases hfits with
  | @record _ _ members hmembers hvalues =>
    have hkeys : (parts.map fun part => (part.1.2.keys, part.2)).map (·.1) =
        (parts.map (·.1)).map (·.2.keys) := by
      rw [List.map_map, List.map_map]
      rfl
    rw [List.forall_mem_map] at hvalues
    simp only [hmembers.repeats_iff, List.mem_map, exists_exists_and_eq_and]
    rw [← h.exists_readMembers_iff hparts (hmembers.skip_eq hskip) hvalues]
    rw [hkeys] at hmembers
    constructor
    · rintro ⟨a, ha⟩
      obtain ⟨others, s, hothers, hread, -⟩ := (h.read_eq_ok_iff hleast hsource).mp ha
      obtain rfl := hmembers.unique hothers
      exact ⟨s, hread⟩
    · rintro ⟨s, hread⟩
      obtain ⟨a, ha⟩ := hfinish s
      exact ⟨a, (h.read_eq_ok_iff hleast hsource).mpr ⟨members, s, hmembers, hread, ha⟩⟩

/-! ### Values alike -/

variable {others : List (String × Json)}

/-- From members that are alike the same is read into each place. -/
theorem exists_readMembers_of_alike (h : form.HasPlaces (parts.map (·.1)))
    (hparts : ∀ part ∈ parts, Json.RespectedBy (part.1.2.read source) part.2)
    (hskip : ∀ member ∈ others, member.2.skip = .closed)
    (halike : Json.AlikeMembers (parts.map fun part => (part.1.2.keys, part.2)) members others)
    {s : σ} (hread : form.readMembers source (Json.keyed members) form.blank = .ok s) :
    ∃ t, form.readMembers source (Json.keyed others) form.blank = .ok t ∧
      ∀ part ∈ parts, part.1.2.get t = part.1.2.get s := by
  have hheld : ∀ part ∈ parts, Json.HeldAs (part.1.2.read source)
      (Json.given part.1.2.keys others) (part.1.2.get s) := by
    intro part hpart
    have hplace : part.1 ∈ parts.map (·.1) := List.mem_map_of_mem hpart
    obtain ⟨pairs, hfirst, hsecond, hpairs⟩ := halike _ (List.mem_map_of_mem hpart)
    refine (h.heldAs hplace hread (h.vacant _ hplace)).of_pairs hfirst hsecond ?_
    intro pair hpair b hb
    have hvalue := hsecond.mem_iff.mpr (List.mem_map_of_mem hpair)
    exact hparts part hpart (Json.skip_of_mem_given hskip hvalue) (hpairs pair hpair) b hb
  obtain ⟨t, ht⟩ : ∃ t, form.readMembers source (Json.keyed others) form.blank = .ok t :=
    (h.exists_readMembers hskip).mpr
      (List.forall_mem_map.mpr fun part hpart => ⟨_, hheld part hpart⟩)
  refine ⟨t, ht, fun part hpart => ?_⟩
  have hplace : part.1 ∈ parts.map (·.1) := List.mem_map_of_mem hpart
  exact (h.heldAs hplace ht (h.vacant _ hplace)).unique (hheld part hpart)

/-- A record is read alike if its fields are. -/
theorem respectedBy_read (h : form.HasPlaces (parts.map (·.1))) (hleast : form.least = 0)
    (hsource : source.enter = .ok inner)
    (hsame : ∀ s t, (∀ part ∈ parts, part.1.2.get t = part.1.2.get s) → t = s)
    (hparts : ∀ part ∈ parts, Json.RespectedBy (part.1.2.read inner) part.2) :
    Json.RespectedBy (form.read source)
      (.record (parts.map fun part => (part.1.2.keys, part.2))) := by
  intro json json' hskip halike a ha
  cases halike with
  | refl => exact ha
  | @record _ _ _ members others hmembers hothers pairs hfirst hsecond hpairs =>
    have hkeys : (parts.map fun part => (part.1.2.keys, part.2)).map (·.1) =
        (parts.map (·.1)).map (·.2.keys) := by
      rw [List.map_map, List.map_map]
      rfl
    have hvalues := hothers.skip_eq hskip
    rw [hkeys] at hmembers hothers
    obtain ⟨_, s, hsame', hread, hfinish⟩ := (h.read_eq_ok_iff hleast hsource).mp ha
    obtain rfl := hmembers.unique hsame'
    obtain ⟨t, ht, hget⟩ := h.exists_readMembers_of_alike hparts hvalues
      (fun field hfield => ⟨pairs field, hfirst field hfield, hsecond field hfield,
        hpairs field hfield⟩) hread
    obtain rfl := hsame s t hget
    exact (h.read_eq_ok_iff hleast hsource).mpr ⟨others, t, hothers, ht, hfinish⟩

end HasPlaces

end Form

end Scaffold
