import Mathlib.Data.List.Pairwise
import Scaffold.Json.Decode

/-!
# Records from members in any order

Reading a record goes through the members of an object one by one. Fields that have nothing to do
with one another can be filled in any order (`Field.Apart`), so the order of the members does not
matter (`Form.readMembers_perm`), and members that no field answers to are passed over
(`Form.readMembers_unknown`).
-/

namespace Scaffold

theorem bind_eq_ok_iff {ε α β : Type} {x : Except ε α} {f : α → Except ε β} {b : β} :
    (x >>= f) = .ok b ↔ ∃ a, x = .ok a ∧ f a = .ok b := by
  cases x with
  | ok a => simp [bind, Except.bind]
  | error e => simp [bind, Except.bind]

theorem map_eq_ok_iff {ε α β : Type} {x : Except ε α} {f : α → β} {b : β} :
    f <$> x = .ok b ↔ ∃ a, x = .ok a ∧ f a = b := by
  cases x with
  | ok a => simp [Functor.map, Except.map]
  | error e => simp [Functor.map, Except.map]

theorem Ending.check_eq_ok_iff {ending : Ending} : ending.check = .ok () ↔ ending = .closed := by
  cases ending <;> simp [check]

theorem Json.eq_str_of_readKey {key : Json} {name : String} (h : key.readKey = .ok name) :
    key = .str name := by
  unfold readKey at h
  split at h
  · cases h
    rfl
  all_goals cases h

/-! ### Whole values -/

/-- Members as they stand in an object. -/
def Json.keyed (members : List (String × Json)) : List (Json × Json) :=
  members.map fun (key, value) => (.str key, value)

/-- A value without a broken part, and with texts for keys. -/
inductive Json.IsWhole : Json → Prop
  | null : IsWhole .null
  | bool (value : Bool) : IsWhole (.bool value)
  | int (value : Int) : IsWhole (.int value)
  | float (text : String) : IsWhole (.float text)
  | str (text : String) : IsWhole (.str text)
  | arr {items : List Json} : (∀ item ∈ items, item.IsWhole) → IsWhole (.ofItems items)
  | obj {members : List (String × Json)} : (∀ member ∈ members, member.2.IsWhole) →
      IsWhole (.ofMembers members)

theorem Json.skipItems_of_forall {items : List Json} (h : ∀ item ∈ items, item.skip = .closed) :
    skipItems items .closed = .closed := by
  induction items with
  | nil => rfl
  | cons item rest ih =>
    rw [List.forall_mem_cons] at h
    rw [skipItems, h.1]
    exact ih h.2

theorem Json.skipMembers_of_forall {members : List (String × Json)}
    (h : ∀ member ∈ members, member.2.skip = .closed) :
    skipMembers (keyed members) .closed = .closed := by
  induction members with
  | nil => rfl
  | cons member rest ih =>
    rw [List.forall_mem_cons] at h
    rw [keyed, List.map_cons, skipMembers, h.1]
    exact ih h.2

/-- A whole value is skipped up to its end. -/
theorem Json.IsWhole.skip_eq {json : Json} (h : json.IsWhole) : json.skip = .closed := by
  induction h with
  | null | bool | int | float | str => rfl
  | arr _ ih => exact skipItems_of_forall ih
  | obj _ ih => exact skipMembers_of_forall ih

variable {σ α β γ : Type}

/-- A list is read item by item. -/
theorem Json.readList_ofItems {read : Source → Json → Except DecodeError α}
    {items : List (α × Json)} (h : ∀ item ∈ items, read .value item.2 = .ok item.1) :
    (Json.ofItems (items.map (·.2))).readList read .value = .ok (items.map (·.1)) := by
  have heach : readEach (read .value) (items.map (·.2)) = .ok (items.map (·.1)) := by
    induction items with
    | nil => rfl
    | cons item rest ih =>
      rw [List.forall_mem_cons] at h
      simp only [List.map_cons, readEach, h.1, ih h.2]
      rfl
  simp only [ofItems, readList, Source.enter, bind, Except.bind, heach]
  rfl

/-! ### Fields -/

/-- What a field does when it fills a place with what `read` makes of a value. -/
def Field.Sets (f : Field σ) (read : Source → Json → Except DecodeError β) (set : β → σ → σ) :
    Prop :=
  ∀ source json s, f.fill source json s = do return set (← read source json) s

/-- Once a field is filled, it shows as filled. -/
def Field.Fills (f : Field σ) : Prop :=
  ∀ {source json s t}, f.fill source json s = .ok t → f.isFilled t = true

theorem Field.Sets.fill_eq_ok {f : Field σ} {read : Source → Json → Except DecodeError β}
    {set : β → σ → σ} (h : f.Sets read set) {source : Source} {json : Json} {s t : σ} :
    f.fill source json s = .ok t ↔ ∃ b, read source json = .ok b ∧ set b s = t := by
  rw [h, bind_eq_ok_iff]
  simp only [pure, Except.pure, Except.ok.injEq]

theorem Field.Sets.fill_bind {f : Field σ} {read : Source → Json → Except DecodeError β}
    {set : β → σ → σ} (h : f.Sets read set) {source : Source} {json : Json} {s : σ}
    (next : σ → Except DecodeError α) :
    f.fill source json s >>= next = read source json >>= fun b => next (set b s) := by
  rw [h, bind_assoc]
  simp only [pure_bind]

theorem Field.Sets.fills {f : Field σ} {read : Source → Json → Except DecodeError β}
    {set : β → σ → σ} (hf : f.Sets read set) (hset : ∀ b s, f.isFilled (set b s) = true) :
    f.Fills := by
  intro source json s t h
  obtain ⟨b, -, rfl⟩ := hf.fill_eq_ok.mp h
  exact hset b s

/-- Two fields that have nothing to do with one another. -/
structure Field.Apart (f g : Field σ) : Prop where
  keeps : ∀ {source json s t}, f.fill source json s = .ok t → g.isFilled t = g.isFilled s
  keeps' : ∀ {source json s t}, g.fill source json s = .ok t → f.isFilled t = f.isFilled s
  comm : ∀ {source j k s u}, (∃ t, f.fill source j s = .ok t ∧ g.fill source k t = .ok u) ↔
    ∃ t, g.fill source k s = .ok t ∧ f.fill source j t = .ok u

theorem Field.Apart.symm {f g : Field σ} (h : f.Apart g) : g.Apart f where
  keeps := h.keeps'
  keeps' := h.keeps
  comm := h.comm.symm

/-- Fields with places of their own are apart. -/
theorem Field.Sets.apart {f g : Field σ} {read : Source → Json → Except DecodeError β}
    {read' : Source → Json → Except DecodeError γ} {set : β → σ → σ} {set' : γ → σ → σ}
    (hf : f.Sets read set) (hg : g.Sets read' set')
    (hkeeps : ∀ b s, g.isFilled (set b s) = g.isFilled s)
    (hkeeps' : ∀ c s, f.isFilled (set' c s) = f.isFilled s)
    (hcomm : ∀ b c s, set' c (set b s) = set b (set' c s)) : f.Apart g where
  keeps h := by
    obtain ⟨b, -, rfl⟩ := hf.fill_eq_ok.mp h
    exact hkeeps b _
  keeps' h := by
    obtain ⟨c, -, rfl⟩ := hg.fill_eq_ok.mp h
    exact hkeeps' c _
  comm := by
    intro source j k s u
    simp only [hf.fill_eq_ok, hg.fill_eq_ok]
    constructor
    · rintro ⟨-, ⟨b, hb, rfl⟩, c, hc, rfl⟩
      exact ⟨_, ⟨c, hc, rfl⟩, b, hb, (hcomm b c s).symm⟩
    · rintro ⟨-, ⟨c, hc, rfl⟩, b, hb, rfl⟩
      exact ⟨_, ⟨b, hb, rfl⟩, c, hc, hcomm b c s⟩

instance : Std.Symm (Field.Apart : Field σ → Field σ → Prop) := ⟨fun _ _ => Field.Apart.symm⟩

namespace Form

/-- The fields of a form stand side by side: none is filled from the start, and filling one shows in
it and in no other. -/
structure IsOrderless (form : Form σ α) : Prop where
  vacant : ∀ f ∈ form.fields, f.isFilled form.blank = false
  fills : ∀ f ∈ form.fields, f.Fills
  apart : form.fields.Pairwise Field.Apart

theorem IsOrderless.apart_of_ne {form : Form σ α} (h : form.IsOrderless) {f g : Field σ}
    (hf : f ∈ form.fields) (hg : g ∈ form.fields) (hne : f ≠ g) : f.Apart g :=
  h.apart.forall hf hg hne

/-! ### One member -/

/-- What one member does to what has been read. -/
inductive Takes (form : Form σ α) (source : Source) : Json × Json → σ → σ → Prop
  | field {name : String} {f : Field σ} {value : Json} {s t : σ} :
      form.fields.find? (·.answersTo name) = some f → f.isFilled s = false →
      f.fill source value s = .ok t → Takes form source (.str name, value) s t
  | unknown {name : String} {value : Json} {s : σ} :
      form.fields.find? (·.answersTo name) = none → value.skip = .closed →
      Takes form source (.str name, value) s s

variable {form : Form σ α} {source : Source}

theorem readMembers_cons_eq_ok {member : Json × Json} {rest : List (Json × Json)} {s u : σ} :
    form.readMembers source (member :: rest) s = .ok u ↔
      ∃ t, form.Takes source member s t ∧ form.readMembers source rest t = .ok u := by
  obtain ⟨key, value⟩ := member
  constructor
  · intro h
    rw [readMembers, bind_eq_ok_iff] at h
    obtain ⟨name, hname, h⟩ := h
    obtain rfl := Json.eq_str_of_readKey hname
    split at h
    · next f hfind =>
      split at h
      · cases h
      · next hvacant =>
        rw [Bool.not_eq_true] at hvacant
        dsimp only at h
        rw [bind_eq_ok_iff] at h
        obtain ⟨t, hfill, hrest⟩ := h
        exact ⟨t, .field hfind hvacant hfill, hrest⟩
    · next hfind =>
      rw [bind_eq_ok_iff] at h
      obtain ⟨⟨⟩, hskip, hrest⟩ := h
      exact ⟨s, .unknown hfind (Ending.check_eq_ok_iff.mp hskip), hrest⟩
  · rintro ⟨t, htakes, hrest⟩
    cases htakes with
    | field hfind hvacant hfill =>
      rw [readMembers]
      simp only [Json.readKey, hfind, hvacant, hfill, hrest, bind, Except.bind]
      rfl
    | unknown hfind hskip =>
      rw [readMembers]
      simp only [Json.readKey, hfind, hskip, Ending.check, bind, Except.bind]
      exact hrest

theorem takes_iff_of_find? {name : String} {value : Json} {s t : σ}
    {f : Field σ} (hfind : form.fields.find? (·.answersTo name) = some f) :
    form.Takes source (.str name, value) s t ↔
      f.isFilled s = false ∧ f.fill source value s = .ok t := by
  constructor
  · intro htakes
    cases htakes with
    | field hf hvacant hfill =>
      obtain rfl := Option.some.inj (hf.symm.trans hfind)
      exact ⟨hvacant, hfill⟩
    | unknown hnone =>
      rw [hnone] at hfind
      cases hfind
  · rintro ⟨hvacant, hfill⟩
    exact .field hfind hvacant hfill

/-- Two members can change places. -/
theorem Takes.swap (h : form.IsOrderless) {m n : Json × Json} {s t u : σ}
    (hm : form.Takes source m s t) (hn : form.Takes source n t u) :
    ∃ v, form.Takes source n s v ∧ form.Takes source m v u := by
  cases hm with
  | unknown hfind hskip => exact ⟨u, hn, .unknown hfind hskip⟩
  | @field _ f _ _ _ hf hvacant hfill =>
    cases hn with
    | unknown hfind hskip => exact ⟨s, .unknown hfind hskip, .field hf hvacant hfill⟩
    | @field _ g _ _ _ hg hvacant' hfill' =>
      have hmf := List.mem_of_find?_eq_some hf
      have hmg := List.mem_of_find?_eq_some hg
      have hne : f ≠ g := by
        rintro rfl
        rw [h.fills f hmf hfill] at hvacant'
        cases hvacant'
      have hapart := h.apart_of_ne hmf hmg hne
      obtain ⟨v, hv, hu⟩ := hapart.comm.mp ⟨t, hfill, hfill'⟩
      refine ⟨v, .field hg ?_ hv, .field hf ?_ hu⟩
      · rw [← hapart.keeps hfill]
        exact hvacant'
      · rw [hapart.keeps' hv]
        exact hvacant

/-! ### All members -/

/-- The order of the members does not matter to what is read. -/
theorem readMembers_perm (h : form.IsOrderless) {members others : List (Json × Json)}
    (hperm : members.Perm others) {s u : σ} (hread : form.readMembers source members s = .ok u) :
    form.readMembers source others s = .ok u := by
  induction hperm generalizing s with
  | nil => exact hread
  | cons member _ ih =>
    rw [readMembers_cons_eq_ok] at hread ⊢
    obtain ⟨t, htakes, hrest⟩ := hread
    exact ⟨t, htakes, ih hrest⟩
  | swap m n rest =>
    rw [readMembers_cons_eq_ok] at hread
    obtain ⟨t, hm, hread⟩ := hread
    rw [readMembers_cons_eq_ok] at hread
    obtain ⟨v, hn, hrest⟩ := hread
    obtain ⟨w, hn', hm'⟩ := hm.swap h hn
    rw [readMembers_cons_eq_ok]
    refine ⟨w, hn', ?_⟩
    rw [readMembers_cons_eq_ok]
    exact ⟨v, hm', hrest⟩
  | trans _ _ ih ih' => exact ih' (ih hread)

theorem readMembers_append_eq_ok {front back : List (Json × Json)} {s u : σ} :
    form.readMembers source (front ++ back) s = .ok u ↔
      ∃ t, form.readMembers source front s = .ok t ∧ form.readMembers source back t = .ok u := by
  induction front generalizing s with
  | nil => simp [readMembers]
  | cons member rest ih =>
    simp only [List.cons_append, readMembers_cons_eq_ok, ih]
    constructor
    · rintro ⟨t, htakes, v, hrest, hback⟩
      exact ⟨v, ⟨t, htakes, hrest⟩, hback⟩
    · rintro ⟨v, ⟨t, htakes, hrest⟩, hback⟩
      exact ⟨t, htakes, v, hrest, hback⟩

theorem readItems_cons_eq_ok {f : Field σ} {fields : List (Field σ)} {item : Json}
    {rest : List Json} {s : σ} {result : σ × Nat} :
    readItems source (f :: fields) (item :: rest) s = .ok result ↔
      ∃ t, f.fill source item s = .ok t ∧ readItems source fields rest t = .ok result := by
  rw [readItems, bind_eq_ok_iff]

/-- The members are for these fields, one after the other. -/
def MembersFor (form : Form σ α) (fields : List (Field σ)) (members : List (String × Json)) :
    Prop :=
  members.map (fun member => form.fields.find? (·.answersTo member.1)) = fields.map some

/-- Members in the order of their fields are read as their values are by position. -/
theorem readMembers_iff_readItems {fields : List (Field σ)} (hapart : fields.Pairwise Field.Apart)
    {members : List (String × Json)} (hfor : form.MembersFor fields members) {s u : σ}
    (hvacant : ∀ f ∈ fields, f.isFilled s = false) :
    form.readMembers source (Json.keyed members) s = .ok u ↔
      readItems source fields (members.map (·.2)) s = .ok (u, 0) := by
  induction fields generalizing members s with
  | nil =>
    obtain rfl := List.map_eq_nil_iff.mp hfor
    simp [Json.keyed, readMembers, readItems]
  | cons f fields ih =>
    obtain ⟨member, rest, rfl, hfind, hrest⟩ := List.map_eq_cons_iff.mp hfor
    rw [List.pairwise_cons] at hapart
    rw [List.forall_mem_cons] at hvacant
    rw [List.map_cons, readItems_cons_eq_ok, Json.keyed, List.map_cons, readMembers_cons_eq_ok]
    apply exists_congr
    intro t
    rw [takes_iff_of_find? hfind, and_iff_right hvacant.1]
    apply and_congr_right
    intro hfill
    apply ih hapart.2 hrest
    intro g hg
    rw [(hapart.1 g hg).keeps hfill]
    exact hvacant.2 g hg

/-- The keys that the fields of a form answer to. -/
def keys (form : Form σ α) : List String := form.fields.flatMap fun f => f.key :: f.otherKey.toList

theorem mem_keys_iff {name : String} :
    name ∈ form.keys ↔ ∃ f ∈ form.fields, f.answersTo name = true := by
  simp only [keys, Field.answersTo, List.mem_flatMap, List.mem_cons, Option.mem_toList,
    Bool.or_eq_true, beq_iff_eq, @eq_comm _ name]

theorem find?_answersTo_eq_none_iff {name : String} :
    form.fields.find? (·.answersTo name) = none ↔ name ∉ form.keys := by
  rw [mem_keys_iff, List.find?_eq_none, not_exists]
  simp only [not_and]

end Form

/-- An object has the `listed` members, in any order, and besides them only such as have none of the
`known` keys. -/
def Json.Carries (known : List String) (listed members : List (String × Json)) : Prop :=
  ∃ others, members.Perm (listed ++ others) ∧
    ∀ member ∈ others, member.1 ∉ known ∧ member.2.IsWhole

theorem Json.Carries.refl (known : List String) (listed : List (String × Json)) :
    Carries known listed listed :=
  ⟨[], by rw [List.append_nil], fun _ => nofun⟩

namespace Form

variable {form : Form σ α} {source : Source}

theorem readMembers_unknown {others : List (String × Json)}
    (h : ∀ member ∈ others, member.1 ∉ form.keys ∧ member.2.IsWhole) (s : σ) :
    form.readMembers source (Json.keyed others) s = .ok s := by
  induction others with
  | nil => rfl
  | cons member rest ih =>
    rw [List.forall_mem_cons] at h
    obtain ⟨⟨hkey, hwhole⟩, hrest⟩ := h
    exact readMembers_cons_eq_ok.mpr
      ⟨s, .unknown (find?_answersTo_eq_none_iff.mpr hkey) hwhole.skip_eq, ih hrest⟩

/-- A record is read from members for some of its fields, in any order and among members that are
for none. -/
theorem read_of_carries (h : form.IsOrderless) {fields : List (Field σ)}
    (hfields : fields.Sublist form.fields) {listed members : List (String × Json)}
    (hfor : form.MembersFor fields listed) (hcarries : Json.Carries form.keys listed members)
    {s : σ} (hitems : readItems .value fields (listed.map (·.2)) form.blank = .ok (s, 0)) :
    form.read .value (.ofMembers members) = form.finish s := by
  obtain ⟨others, hperm, hothers⟩ := hcarries
  have hlisted : form.readMembers .value (Json.keyed listed) form.blank = .ok s :=
    (readMembers_iff_readItems (h.apart.sublist hfields) hfor
      fun f hf => h.vacant f (hfields.subset hf)).mpr hitems
  have hall : form.readMembers .value (Json.keyed (listed ++ others)) form.blank = .ok s := by
    rw [Json.keyed, List.map_append]
    exact readMembers_append_eq_ok.mpr ⟨s, hlisted, readMembers_unknown hothers s⟩
  have hread : form.readMembers .value (Json.keyed members) form.blank = .ok s :=
    readMembers_perm h (hperm.symm.map _) hall
  change (form.readMembers .value (Json.keyed members) form.blank >>= fun s =>
    Ending.closed.check >>= fun _ => form.finish s) = _
  rw [hread]
  rfl

/-- A record is read from its fields by position. -/
theorem read_ofItems {items : List Json} {s : σ}
    (hitems : readItems .value form.fields items form.blank = .ok (s, 0))
    (hleast : form.least ≤ items.length) : form.read .value (.ofItems items) = form.finish s := by
  simp only [Json.ofItems, read, Source.enter, Ending.check, bind, Except.bind, hitems, if_true,
    if_neg (Nat.not_lt.mpr hleast)]

end Form

end Scaffold
