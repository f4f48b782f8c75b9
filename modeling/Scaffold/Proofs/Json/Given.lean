import Scaffold.Proofs.Json.Inversion

/-!
# What members give

What an object says of a field is the values that its members have under the keys of that field
(`Json.given`): none, one, or several if the field is repeated. Seen so, the order of the members,
the choice between two keys, and members with other keys make no difference. `Json.HasMembers` reads
an array as the object it stands for, and `Shape` describes records of texts, flags and records, so
that it can be said of any of them that its values are of the right type (`Json.Fits`) and that some
field in it occurs twice (`Json.Repeats`).
-/

namespace Scaffold

variable {β : Type}

namespace Json

/-! ### Values under a key -/

/-- The values that members have under one of the keys. -/
def given (keys : List String) (members : List (String × Json)) : List Json :=
  (members.filter fun member => keys.contains member.1).map (·.2)

variable {keys : List String} {member : String × Json} {members others : List (String × Json)}

@[simp]
theorem given_nil : given keys [] = [] := rfl

theorem given_cons_of_mem (h : member.1 ∈ keys) :
    given keys (member :: members) = member.2 :: given keys members := by
  rw [given, List.filter_cons_of_pos (by simpa using h), List.map_cons, given]

theorem given_cons_of_not_mem (h : member.1 ∉ keys) :
    given keys (member :: members) = given keys members := by
  rw [given, List.filter_cons_of_neg (by simpa using h), given]

theorem mem_given_iff {json : Json} :
    json ∈ given keys members ↔ ∃ key ∈ keys, (key, json) ∈ members := by
  simp only [given, List.mem_map, List.mem_filter, List.contains_iff_mem, Prod.exists,
    exists_eq_right]
  exact exists_congr fun key => and_comm

theorem skip_of_mem_given {json : Json} (h : ∀ member ∈ members, member.2.skip = .closed)
    (hjson : json ∈ given keys members) : json.skip = .closed := by
  obtain ⟨key, -, hmember⟩ := mem_given_iff.mp hjson
  exact h _ hmember

/-- The order of the members makes no difference to which values there are. -/
theorem given_perm (h : members.Perm others) : (given keys members).Perm (given keys others) :=
  (h.filter _).map _

/-- Members with other keys make no difference. -/
theorem given_append_of_not_mem (h : ∀ member ∈ others, member.1 ∉ keys) :
    given keys (members ++ others) = given keys members := by
  have hothers : others.filter (fun member => keys.contains member.1) = [] := by
    rw [List.filter_eq_nil_iff]
    simpa using h
  rw [given, List.filter_append, hothers, List.append_nil, given]

/-- What the values under a key settle: what the one value means or, where there is none, the
default. -/
inductive Settles (means : Json → β → Prop) (default : β) : List Json → β → Prop
  | given {json : Json} {b : β} (h : means json b) : Settles means default [json] b
  | absent : Settles means default [] default

/-! ### Records -/

/-- The members of an object or, of an array, its items under the keys of the fields by position.
Of several keys for a field the first is meant. -/
inductive HasMembers (fields : List (List String)) : Json → List (String × Json) → Prop
  | object (members : List (String × Json)) : HasMembers fields (.ofMembers members) members
  | array {members : List (String × Json)}
      (hkeys : members.map (·.1) <+: fields.filterMap List.head?) :
      HasMembers fields (.ofItems (members.map (·.2))) members

theorem HasMembers.unique {fields : List (List String)} {json : Json}
    (h : HasMembers fields json members) (h' : HasMembers fields json others) :
    members = others := by
  cases h with
  | object =>
    generalize hjson : ofMembers members = json at h'
    cases h' with
    | object => exact keyed_injective (obj.inj hjson).1
    | array => cases hjson
  | array hkeys =>
    generalize hjson : ofItems (members.map (·.2)) = json at h'
    cases h' with
    | object => cases hjson
    | array hkeys' =>
      -- as many items, so the keys are those of the same fields
      have hvalues : members.map (·.2) = others.map (·.2) := (arr.inj hjson).1
      have hlength : members.length = others.length := by simpa using congrArg List.length hvalues
      have hnames : members.map (·.1) = others.map (·.1) :=
        (List.prefix_of_prefix_length_le hkeys hkeys' (by simp [hlength])).eq_of_length
          (by simp [hlength])
      exact (List.zip_of_prod hnames hvalues).trans (List.zip_of_prod rfl rfl).symm

theorem skip_of_skipItems {items : List Json} (h : skipItems items .closed = .closed) :
    ∀ item ∈ items, item.skip = .closed := by
  induction items with
  | nil => nofun
  | cons item rest ih =>
    rw [skipItems] at h
    split at h
    · next hitem => exact List.forall_mem_cons.mpr ⟨hitem, ih h⟩
    · next hbroken => exact absurd h hbroken

theorem skip_of_skipMembers (h : skipMembers (keyed members) .closed = .closed) :
    ∀ member ∈ members, member.2.skip = .closed := by
  induction members with
  | nil => nofun
  | cons member rest ih =>
    rw [keyed, List.map_cons, skipMembers] at h
    dsimp only [skipKey] at h
    split at h
    · next hvalue => exact List.forall_mem_cons.mpr ⟨hvalue, ih h⟩
    · next hbroken => exact absurd h hbroken

/-- The text of a record goes to the end of each of its values. -/
theorem HasMembers.skip_eq {fields : List (List String)} {json : Json}
    (h : HasMembers fields json members) (hskip : json.skip = .closed) :
    ∀ member ∈ members, member.2.skip = .closed := by
  cases h with
  | object => exact skip_of_skipMembers hskip
  | array => exact List.forall_mem_map.mp (skip_of_skipItems hskip)

end Json

/-! ### Shapes -/

/-- What kind of value is wanted: a text, a flag, or a record, of which each field has its keys and
a shape of its own. -/
inductive Shape where
  | text
  | flag
  | record (fields : List (List String × Shape))

namespace Json

/-- All known fields of a value have values of the right type; none of them has to be there. -/
inductive Fits : Shape → Json → Prop
  | text (content : String) : Fits .text (.str content)
  | flag (value : Bool) : Fits .flag (.bool value)
  | record {fields : List (List String × Shape)} {json : Json} {members : List (String × Json)}
      (hmembers : HasMembers (fields.map (·.1)) json members)
      (hvalues : ∀ field ∈ fields, ∀ value ∈ given field.1 members, Fits field.2 value) :
      Fits (.record fields) json

/-- Some known field occurs twice in a value, at any level. -/
inductive Repeats : Shape → Json → Prop
  | here {fields : List (List String × Shape)} {json : Json} {members : List (String × Json)}
      (hmembers : HasMembers (fields.map (·.1)) json members) {field : List String × Shape}
      (hfield : field ∈ fields) (htwice : 2 ≤ (given field.1 members).length) :
      Repeats (.record fields) json
  | inside {fields : List (List String × Shape)} {json : Json} {members : List (String × Json)}
      (hmembers : HasMembers (fields.map (·.1)) json members) {field : List String × Shape}
      (hfield : field ∈ fields) {value : Json} (hvalue : value ∈ given field.1 members)
      (hinside : Repeats field.2 value) : Repeats (.record fields) json

/-- Two values with the same known fields: they may differ in the order of members, in members that
are for no field, and in the key that is used of several, at any level. -/
inductive Alike : Shape → Json → Json → Prop
  | refl (shape : Shape) (json : Json) : Alike shape json json
  | record {fields : List (List String × Shape)} {json json' : Json}
      {members members' : List (String × Json)}
      (hmembers : HasMembers (fields.map (·.1)) json members)
      (hmembers' : HasMembers (fields.map (·.1)) json' members')
      (pairs : List String × Shape → List (Json × Json))
      (hfirst : ∀ field ∈ fields, (given field.1 members).Perm ((pairs field).map (·.1)))
      (hsecond : ∀ field ∈ fields, (given field.1 members').Perm ((pairs field).map (·.2)))
      (halike : ∀ field ∈ fields, ∀ pair ∈ pairs field, Alike field.2 pair.1 pair.2) :
      Alike (.record fields) json json'

/-- Members that give values alike for each of the fields. -/
def AlikeMembers (fields : List (List String × Shape)) (members members' : List (String × Json)) :
    Prop :=
  ∀ field ∈ fields, ∃ pairs : List (Json × Json),
    (given field.1 members).Perm (pairs.map (·.1)) ∧
    (given field.1 members').Perm (pairs.map (·.2)) ∧
    ∀ pair ∈ pairs, Alike field.2 pair.1 pair.2

theorem Alike.symm {shape : Shape} {json json' : Json} (h : Alike shape json json') :
    Alike shape json' json := by
  induction h with
  | refl shape json => exact .refl shape json
  | record hmembers hmembers' pairs hfirst hsecond _ ih =>
    refine .record hmembers' hmembers (fun field => (pairs field).map Prod.swap) ?_ ?_ ?_
    · simpa [Function.comp_def] using hsecond
    · simpa [Function.comp_def] using hfirst
    · intro field hfield
      exact List.forall_mem_map.mpr (ih field hfield)

variable {fields : List (List String × Shape)} {json : Json} {members : List (String × Json)}

theorem AlikeMembers.symm {members' : List (String × Json)}
    (h : AlikeMembers fields members members') : AlikeMembers fields members' members := by
  intro field hfield
  obtain ⟨pairs, hfirst, hsecond, halike⟩ := h field hfield
  refine ⟨pairs.map Prod.swap, ?_, ?_, List.forall_mem_map.mpr fun pair hpair => ?_⟩
  · simpa [Function.comp_def] using hsecond
  · simpa [Function.comp_def] using hfirst
  · exact (halike pair hpair).symm

/-- Records are alike if their members are. -/
theorem AlikeMembers.alike {json' : Json} {members' : List (String × Json)}
    (h : AlikeMembers fields members members')
    (hmembers : HasMembers (fields.map (·.1)) json members)
    (hmembers' : HasMembers (fields.map (·.1)) json' members') :
    Alike (.record fields) json json' := by
  choose! pairs hfirst hsecond halike using h
  exact .record hmembers hmembers' pairs hfirst hsecond halike

/-- Members in another order, and others that are for no field among them. -/
theorem alikeMembers_of_perm {members' unknown : List (String × Json)}
    (hperm : members'.Perm (members ++ unknown))
    (hunknown : ∀ member ∈ unknown, ∀ field ∈ fields, member.1 ∉ field.1) :
    AlikeMembers fields members members' := by
  intro field hfield
  have hgiven : (given field.1 members').Perm _ := given_perm hperm
  rw [given_append_of_not_mem fun member hmember => hunknown member hmember field hfield] at hgiven
  refine ⟨(given field.1 members).map fun json => (json, json), ?_, ?_, ?_⟩
  · simp [Function.comp_def]
  · simpa [Function.comp_def] using hgiven
  · rw [List.forall_mem_map]
    exact fun json _ => .refl field.2 json

theorem HasMembers.fits_iff (h : HasMembers (fields.map (·.1)) json members) :
    Fits (.record fields) json ↔
      ∀ field ∈ fields, ∀ value ∈ given field.1 members, Fits field.2 value := by
  refine ⟨?_, .record h⟩
  rintro (_ | _ | ⟨h', hvalues⟩)
  rwa [h.unique h']

theorem HasMembers.repeats_iff (h : HasMembers (fields.map (·.1)) json members) :
    Repeats (.record fields) json ↔
      ∃ field ∈ fields, 2 ≤ (given field.1 members).length ∨
        ∃ value ∈ given field.1 members, Repeats field.2 value := by
  constructor
  · rintro (⟨h', hfield, htwice⟩ | ⟨h', hfield, hvalue, hinside⟩)
    · exact ⟨_, hfield, .inl (h.unique h' ▸ htwice)⟩
    · exact ⟨_, hfield, .inr ⟨_, h.unique h' ▸ hvalue, hinside⟩⟩
  · rintro ⟨field, hfield, htwice | ⟨value, hvalue, hinside⟩⟩
    · exact .here h hfield htwice
    · exact .inside h hfield hvalue hinside

/-- A reader takes the values of a shape except those in which a field occurs twice. -/
def TakenBy (read : Json → Except DecodeError β) (shape : Shape) : Prop :=
  ∀ json, json.skip = .closed → Fits shape json →
    ((∃ b, read json = .ok b) ↔ ¬Repeats shape json)

/-- A reader makes no difference between values that are alike. -/
def RespectedBy (read : Json → Except DecodeError β) (shape : Shape) : Prop :=
  ∀ {json json' : Json}, json'.skip = .closed → Alike shape json json' →
    ∀ b, read json = .ok b → read json' = .ok b

theorem respectedBy_readStr : RespectedBy readStr .text := by
  rintro json _ - ⟨⟩ text htext
  exact htext

theorem respectedBy_readBool : RespectedBy readBool .flag := by
  rintro json _ - ⟨⟩ value hvalue
  exact hvalue

theorem takenBy_readStr : TakenBy readStr .text := by
  rintro _ - ⟨content⟩
  exact iff_of_true ⟨content, rfl⟩ nofun

theorem takenBy_readBool : TakenBy readBool .flag := by
  rintro _ - (_ | ⟨value⟩)
  exact iff_of_true ⟨value, rfl⟩ nofun

end Json

end Scaffold
