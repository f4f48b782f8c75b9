import Scaffold.Markup.Form
import Scaffold.Proofs.Json.Inversion

/-!
# Attributes in JSON

What JSON stands for an attribute and for its name, and that it is all that reads as them
(`AttrName.ofJson_eq_ok_iff`, `Attribute.ofJson_of_writtenAs`, `Attribute.writtenAs_of_ofJson`).
-/

namespace Scaffold

/-! ### Names of attributes -/

namespace AttrName

/-- JSON for the name of an attribute. A name of which the keyword depends on the dialect may have
an empty payload. -/
inductive WrittenAs : AttrName → Json → Prop
  | plain (name : AttrName) : WrittenAs name name.toJson
  | empty {name : AttrName} {text : String} :
      name.toJson = .str text → WrittenAs name (.ofMembers [(text, .null)])

theorem ofJson_eq_ok_iff {name : AttrName} {json : Json} :
    ofJson .value json = .ok name ↔ name.WrittenAs json := by
  constructor
  · intro h
    obtain ⟨text, hmem, hread⟩ := Json.readVariant_eq_ok h
    simp only [variants, List.mem_cons, List.not_mem_nil, or_false] at hmem
    rcases hread with ⟨rfl, hread⟩ | ⟨payload, rfl, hread⟩
    · rcases hmem with rfl | rfl | rfl | rfl | rfl | rfl <;> cases hread <;> exact .plain _
    · rcases hmem with rfl | rfl | rfl | rfl | rfl | rfl
      case inr.inr.inr.inr.inr =>
        obtain ⟨content, hcontent, rfl⟩ := map_eq_ok_iff.mp hread
        obtain rfl := Json.readStr_eq_ok_iff.mp hcontent
        exact .plain _
      all_goals
        obtain ⟨rfl, rfl⟩ := Json.noPayload_eq_ok hread
        exact .empty rfl
  · intro h
    cases h with
    | plain => cases name <;> rfl
    | empty htext => cases name <;> cases htext <;> rfl

end AttrName

/-! ### Attributes -/

namespace Attribute

/-- JSON for the value of an attribute. -/
inductive ValueWrittenAs : Option String → Json → Prop
  | text (content : String) : ValueWrittenAs (some content) (.str content)
  | null : ValueWrittenAs none .null

theorem readStr?_eq_ok_iff {value : Option String} {json : Json} :
    json.readStr? = .ok value ↔ ValueWrittenAs value json := by
  constructor
  · intro h
    cases json with
    | null =>
      cases h
      exact .null
    | str content =>
      cases h
      exact .text content
    | _ => cases h
  · rintro (_ | _) <;> rfl

/-- The member for the value, which may be left out where there is none. -/
inductive ValueMember : Option String → List (String × Json) → Prop
  | given {value : Option String} {json : Json} :
      ValueWrittenAs value json → ValueMember value [("value", json)]
  | absent : ValueMember none []

/-- JSON for an attribute. -/
inductive WrittenAs : Attribute → Json → Prop
  | object {name : AttrName} {nameJson : Json} {value : Option String}
      {valueMember members : List (String × Json)} :
      name.WrittenAs nameJson → ValueMember value valueMember →
      Json.Carries ["name", "value"] (("name", nameJson) :: valueMember) members →
      WrittenAs ⟨name, value⟩ (.ofMembers members)
  | array {name : AttrName} {value : Option String} {nameJson valueJson : Json} :
      name.WrittenAs nameJson → ValueWrittenAs value valueJson →
      WrittenAs ⟨name, value⟩ (.ofItems [nameJson, valueJson])

theorem writtenAs_toJson (a : Attribute) : a.WrittenAs a.toJson := by
  obtain ⟨name, value⟩ := a
  cases value with
  | none => exact .object (.plain name) (.given .null) (Json.Carries.refl _ _)
  | some content => exact .object (.plain name) (.given (.text content)) (Json.Carries.refl _ _)

def nameField : Field Partial where
  key := "name"
  isFilled := (·.name.isSome)
  fill := fun source json read => return { read with name := some (← AttrName.ofJson source json) }

def valueField : Field Partial where
  key := "value"
  isFilled := (·.value.isSome)
  fill := fun _ json read => return { read with value := some (← json.readStr?) }

theorem form_fields : form.fields = [nameField, valueField] := rfl

theorem nameField_sets :
    nameField.Sets AttrName.ofJson fun name read => { read with name := some name } :=
  fun _ _ _ => rfl

theorem valueField_sets :
    valueField.Sets (fun _ json => json.readStr?) fun value read =>
      { read with value := some value } :=
  fun _ _ _ => rfl

theorem form_isOrderless : form.IsOrderless where
  vacant := by simp [form]
  fills := by
    rw [form_fields, List.forall_mem_cons, List.forall_mem_singleton]
    exact ⟨nameField_sets.fills fun _ _ => rfl, valueField_sets.fills fun _ _ => rfl⟩
  apart := by
    rw [form_fields, List.pairwise_pair]
    exact nameField_sets.apart valueField_sets (fun _ _ => rfl) (fun _ _ => rfl) fun _ _ _ => rfl

theorem readItems_name_iff {json : Json} {read : Partial} :
    Form.readItems .value [nameField] [json] form.blank = .ok (read, 0) ↔
      ∃ name : AttrName, name.WrittenAs json ∧ read = ⟨some name, none⟩ := by
  simp only [Form.readItems_cons_eq_ok, nameField_sets.fill_eq_ok]
  constructor
  · rintro ⟨_, ⟨name, hname, rfl⟩, hrest⟩
    cases hrest
    exact ⟨name, AttrName.ofJson_eq_ok_iff.mp hname, rfl⟩
  · rintro ⟨name, hname, rfl⟩
    exact ⟨_, ⟨name, AttrName.ofJson_eq_ok_iff.mpr hname, rfl⟩, rfl⟩

theorem readItems_form_iff {nameJson valueJson : Json} {read : Partial} :
    Form.readItems .value form.fields [nameJson, valueJson] form.blank = .ok (read, 0) ↔
      ∃ (name : AttrName) (value : Option String), name.WrittenAs nameJson ∧
        ValueWrittenAs value valueJson ∧ read = ⟨some name, some value⟩ := by
  rw [form_fields]
  simp only [Form.readItems_cons_eq_ok, nameField_sets.fill_eq_ok, valueField_sets.fill_eq_ok]
  constructor
  · rintro ⟨_, ⟨name, hname, rfl⟩, _, ⟨value, hvalue, rfl⟩, hrest⟩
    cases hrest
    exact ⟨name, value, AttrName.ofJson_eq_ok_iff.mp hname, readStr?_eq_ok_iff.mp hvalue, rfl⟩
  · rintro ⟨name, value, hname, hvalue, rfl⟩
    exact ⟨_, ⟨name, AttrName.ofJson_eq_ok_iff.mpr hname, rfl⟩, _,
      ⟨value, readStr?_eq_ok_iff.mpr hvalue, rfl⟩, rfl⟩

theorem ofJson_of_writtenAs {a : Attribute} {json : Json} (h : a.WrittenAs json) :
    ofJson .value json = .ok a := by
  cases h with
  | @object name nameJson value _ _ hname hvalue hcarries =>
    cases hvalue with
    | @given _ valueJson hvalue =>
      have hfor : form.MembersFor form.fields [("name", nameJson), ("value", valueJson)] := rfl
      exact Form.read_of_carries form_isOrderless (.refl _) hfor hcarries
        (readItems_form_iff.mpr ⟨name, value, hname, hvalue, rfl⟩)
    | absent =>
      have hfor : form.MembersFor [nameField] [("name", nameJson)] := rfl
      exact Form.read_of_carries form_isOrderless (.cons_cons _ (.cons _ .slnil)) hfor hcarries
        (readItems_name_iff.mpr ⟨name, hname, rfl⟩)
  | @array name value _ _ hname hvalue =>
    exact Form.read_ofItems (readItems_form_iff.mpr ⟨name, value, hname, hvalue, rfl⟩)
      (Nat.le_refl _)

theorem writtenAs_of_ofJson {a : Attribute} {json : Json} (hwhole : json.IsWhole)
    (h : ofJson .value json = .ok a) : a.WrittenAs json := by
  obtain ⟨read, hfinish, ⟨members, listed, rfl, hfor, hcarries, hitems⟩ |
    ⟨items, rfl, hleast, hitems⟩⟩ := Form.read_eq_ok form_isOrderless hwhole h
  · obtain ⟨_ | name, _ | value⟩ := read
    · cases hfinish
    · cases hfinish
    · change form.MembersFor [nameField] listed at hfor
      obtain ⟨nameJson, rest, rfl, hlast⟩ := hfor.exists_cons rfl
      obtain rfl := List.map_eq_nil_iff.mp hlast
      obtain ⟨name, hname, ⟨⟩⟩ := readItems_name_iff.mp hitems
      cases hfinish
      exact .object hname .absent hcarries
    · change form.MembersFor [nameField, valueField] listed at hfor
      obtain ⟨nameJson, rest, rfl, hrest⟩ := hfor.exists_cons rfl
      obtain ⟨valueJson, rest, rfl, hlast⟩ := hrest.exists_cons rfl
      obtain rfl := List.map_eq_nil_iff.mp hlast
      obtain ⟨name, value, hname, hvalue, ⟨⟩⟩ := readItems_form_iff.mp hitems
      cases hfinish
      exact .object hname (.given hvalue) hcarries
  · obtain ⟨nameJson, valueJson, rfl⟩ :=
      List.length_eq_two.mp (Form.length_of_readItems hitems hleast)
    obtain ⟨name, value, hname, hvalue, rfl⟩ := readItems_form_iff.mp hitems
    cases hfinish
    exact .array hname hvalue

end Attribute

end Scaffold
