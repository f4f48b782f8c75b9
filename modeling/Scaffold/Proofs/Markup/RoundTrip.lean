import Scaffold.Proofs.Markup.AttributeJson

/-!
# Markup trees through JSON

`Node.WrittenAs` says what JSON stands for a tree: what `Node.toJson` writes, and besides, in the
objects of elements and attributes, members in another order, members more that no field answers to,
and no member for the value that an attribute does not have; or these objects as arrays, by
position. This is all that reads as the tree (`Node.ofJson_of_writtenAs`,
`Node.writtenAs_of_ofJson`). An element is a record like any other (`Node.elementOfJson_eq_read`),
so its members are read as those of a `Form` are.
-/

namespace Scaffold

namespace Node

/-! ### Elements as records -/

def tagField : Field Partial where
  key := "tag"
  isFilled := (·.tag.isSome)
  fill := fun _ json read => return { read with tag := some (← json.readStr) }

def attributesField : Field Partial where
  key := "attributes"
  isFilled := (·.attributes.isSome)
  fill := fun source json read =>
    return { read with attributes := some (← json.readList Attribute.ofJson source) }

def childrenField : Field Partial where
  key := "children"
  isFilled := (·.children.isSome)
  fill := fun source json read =>
    return { read with children := some (← childrenOfJson source json) }

/-- How an element is read. -/
def elementForm : Form Partial Node where
  name := "Element"
  fields := [tagField, attributesField, childrenField]
  least := 3
  blank := {}
  finish := Partial.finish

theorem tagField_sets :
    tagField.Sets (fun _ json => json.readStr) fun tag read => { read with tag := some tag } :=
  fun _ _ _ => rfl

theorem attributesField_sets :
    attributesField.Sets (fun source json => json.readList Attribute.ofJson source)
      fun attributes read => { read with attributes := some attributes } :=
  fun _ _ _ => rfl

theorem childrenField_sets :
    childrenField.Sets childrenOfJson fun children read =>
      { read with children := some children } :=
  fun _ _ _ => rfl

theorem elementForm_isOrderless : elementForm.IsOrderless where
  vacant := by simp [elementForm, tagField, attributesField, childrenField]
  fills := by
    rw [elementForm, List.forall_mem_cons, List.forall_mem_cons, List.forall_mem_singleton]
    exact ⟨tagField_sets.fills fun _ _ => rfl, attributesField_sets.fills fun _ _ => rfl,
      childrenField_sets.fills fun _ _ => rfl⟩
  apart := by
    have hattributes : tagField.Apart attributesField :=
      tagField_sets.apart attributesField_sets (fun _ _ => rfl) (fun _ _ => rfl) fun _ _ _ => rfl
    have hchildren : tagField.Apart childrenField :=
      tagField_sets.apart childrenField_sets (fun _ _ => rfl) (fun _ _ => rfl) fun _ _ _ => rfl
    rw [elementForm, List.pairwise_cons, List.pairwise_pair, List.forall_mem_cons,
      List.forall_mem_singleton]
    exact ⟨⟨hattributes, hchildren⟩, attributesField_sets.apart childrenField_sets
      (fun _ _ => rfl) (fun _ _ => rfl) fun _ _ _ => rfl⟩

theorem ofJsonAll_eq_readEach (source : Source) (items : List Json) :
    ofJsonAll source items = Json.readEach (ofJson source) items := by
  induction items with
  | nil => rw [ofJsonAll, Json.readEach]
  | cons item rest ih => rw [ofJsonAll, Json.readEach, ih]

theorem childrenOfJson_eq_readList (source : Source) (json : Json) :
    childrenOfJson source json = json.readList ofJson source := by
  cases json with
  | arr items ending => simp only [childrenOfJson, Json.readList, ofJsonAll_eq_readEach]
  | _ => simp only [childrenOfJson, Json.readList]

theorem readMembers_eq_elementForm (source : Source) (read : Partial)
    (members : List (Json × Json)) :
    readMembers source read members = elementForm.readMembers source members read := by
  induction members generalizing read with
  | nil => rw [readMembers, Form.readMembers]
  | cons member rest ih =>
    obtain ⟨key, value⟩ := member
    rw [readMembers, Form.readMembers]
    congr 1
    funext name
    simp only [ih]
    -- one case for each field, in which the field that answers to the name is found by computing
    split
    · change _ = if read.tag.isSome then _ else tagField.fill source value read >>= _
      rw [tagField_sets.fill_bind]
      cases read.tag.isSome <;> rfl
    · change _ = if read.attributes.isSome then _ else
        attributesField.fill source value read >>= _
      rw [attributesField_sets.fill_bind]
      cases read.attributes.isSome <;> rfl
    · change _ = if read.children.isSome then _ else childrenField.fill source value read >>= _
      rw [childrenField_sets.fill_bind]
      cases read.children.isSome <;> rfl
    · next htag hattributes hchildren =>
      have hnone : elementForm.fields.find? (·.answersTo name) = none := by
        rw [Form.find?_answersTo_eq_none_iff]
        change name ∉ ["tag", "attributes", "children"]
        simpa using ⟨htag, hattributes, hchildren⟩
      rw [hnone]

/-- An element is read as a record. -/
theorem elementOfJson_eq_read (source : Source) (json : Json) :
    elementOfJson source json = elementForm.read source json := by
  cases json with
  | obj members ending =>
    simp only [elementOfJson, Form.read, readMembers_eq_elementForm]
    rfl
  | arr items ending =>
    -- the positions that are there, one by one, and what is left over
    rcases items with _ | ⟨tag, _ | ⟨attributes, _ | ⟨children, _ | ⟨item, surplus⟩⟩⟩⟩
    all_goals
      simp only [elementOfJson, Form.read, Form.readItems, elementForm, tagField, attributesField,
        childrenField, bind_assoc, pure_bind]
      rfl
  | _ =>
    simp only [elementOfJson, Form.read]
    rfl

/-! ### Trees -/

/-- An element as an object, or as an array. -/
inductive ElementRecord (tag attributes children : Json) : Json → Prop
  | object {members : List (String × Json)} :
      Json.Carries ["tag", "attributes", "children"]
        [("tag", tag), ("attributes", attributes), ("children", children)] members →
      ElementRecord tag attributes children (.ofMembers members)
  | array : ElementRecord tag attributes children (.ofItems [tag, attributes, children])

/-- JSON for a tree. -/
inductive WrittenAs : Node → Json → Prop
  | text (content : String) : WrittenAs (.text content) (.ofMembers [("Text", .str content)])
  | comment (content : String) :
      WrittenAs (.comment content) (.ofMembers [("Comment", .str content)])
  | element {tag : String} {attributes : List (Attribute × Json)} {children : List (Node × Json)}
      {json : Json} :
      (∀ a ∈ attributes, a.1.WrittenAs a.2) → (∀ child ∈ children, WrittenAs child.1 child.2) →
      ElementRecord (.str tag) (.ofItems (attributes.map (·.2))) (.ofItems (children.map (·.2)))
        json →
      WrittenAs (.element tag (attributes.map (·.1)) (children.map (·.1)))
        (.ofMembers [("Element", json)])

theorem toJsonAll_eq_map (nodes : List Node) : toJsonAll nodes = nodes.map toJson := by
  induction nodes with
  | nil => rfl
  | cons node rest ih => rw [toJsonAll, ih, List.map_cons]

mutual

/-- A tree is written as what `toJson` makes of it. -/
theorem writtenAs_toJson : ∀ node : Node, node.WrittenAs node.toJson
  | .text content => .text content
  | .comment content => .comment content
  | .element tag attributes children => by
    have hattributes : ∀ a ∈ attributes.map fun a => (a, a.toJson), a.1.WrittenAs a.2 := by
      rw [List.forall_mem_map]
      exact fun a _ => a.writtenAs_toJson
    have h := WrittenAs.element hattributes (writtenAs_toJsonAll children)
      (.object (Json.Carries.refl _ [("tag", .str tag), _, _]))
    simpa [toJson, toJsonAll_eq_map, Function.comp_def] using h

theorem writtenAs_toJsonAll : ∀ nodes : List Node,
    ∀ node ∈ nodes.map fun node => (node, node.toJson), WrittenAs node.1 node.2
  | [] => by simp
  | node :: rest => by
    rw [List.map_cons, List.forall_mem_cons]
    exact ⟨writtenAs_toJson node, writtenAs_toJsonAll rest⟩

end

theorem readItems_elementForm_iff {tagJson attributesJson childrenJson : Json} {read : Partial} :
    Form.readItems .value elementForm.fields [tagJson, attributesJson, childrenJson]
        elementForm.blank = .ok (read, 0) ↔
      ∃ tag attributes children, tagJson = .str tag ∧
        attributesJson.readList Attribute.ofJson .value = .ok attributes ∧
        childrenJson.readList ofJson .value = .ok children ∧
        read = ⟨some tag, some attributes, some children⟩ := by
  rw [elementForm]
  simp only [Form.readItems_cons_eq_ok, tagField_sets.fill_eq_ok, attributesField_sets.fill_eq_ok,
    childrenField_sets.fill_eq_ok, childrenOfJson_eq_readList, Json.readStr_eq_ok_iff]
  constructor
  · rintro ⟨_, ⟨tag, htag, rfl⟩, _, ⟨attributes, hattributes, rfl⟩, _,
      ⟨children, hchildren, rfl⟩, hrest⟩
    cases hrest
    exact ⟨tag, attributes, children, htag, hattributes, hchildren, rfl⟩
  · rintro ⟨tag, attributes, children, htag, hattributes, hchildren, rfl⟩
    exact ⟨_, ⟨tag, htag, rfl⟩, _, ⟨attributes, hattributes, rfl⟩, _, ⟨children, hchildren, rfl⟩,
      rfl⟩

theorem ElementRecord.read_eq {tag attributes children json : Json} {read : Partial}
    (h : ElementRecord tag attributes children json)
    (hitems : Form.readItems .value elementForm.fields [tag, attributes, children]
      elementForm.blank = .ok (read, 0)) :
    elementForm.read .value json = read.finish := by
  cases h with
  | object hcarries =>
    have hfor : elementForm.MembersFor elementForm.fields
        [("tag", tag), ("attributes", attributes), ("children", children)] := rfl
    exact Form.read_of_carries elementForm_isOrderless (.refl _) hfor hcarries hitems
  | array => exact Form.read_ofItems hitems (Nat.le_refl _)

theorem ElementRecord.isWhole {tag attributes children json : Json}
    (h : ElementRecord tag attributes children json) (hwhole : json.IsWhole) :
    attributes.IsWhole ∧ children.IsWhole := by
  cases h with
  | object hcarries =>
    have hlisted := hcarries.isWhole hwhole
    simp only [List.forall_mem_cons] at hlisted
    exact ⟨hlisted.2.1, hlisted.2.2.1⟩
  | array =>
    have hitems := Json.isWhole_ofItems_iff.mp hwhole
    simp only [List.forall_mem_cons] at hitems
    exact ⟨hitems.2.1, hitems.2.2.1⟩

theorem exists_elementRecord {json : Json} (hwhole : json.IsWhole) {node : Node}
    (h : elementForm.read .value json = .ok node) :
    ∃ tagJson attributesJson childrenJson read,
      ElementRecord tagJson attributesJson childrenJson json ∧
      Form.readItems .value elementForm.fields [tagJson, attributesJson, childrenJson]
        elementForm.blank = .ok (read, 0) ∧
      read.finish = .ok node := by
  obtain ⟨read, hfinish, ⟨members, listed, rfl, hfor, hcarries, hitems⟩ |
    ⟨items, rfl, hleast, hitems⟩⟩ := Form.read_eq_ok elementForm_isOrderless hwhole h
  · obtain ⟨_ | tag, _ | attributes, _ | children⟩ := read
    case some.some.some =>
      change elementForm.MembersFor [tagField, attributesField, childrenField] listed at hfor
      obtain ⟨tagJson, rest, rfl, hbehindTag⟩ := hfor.exists_cons rfl
      obtain ⟨attributesJson, rest, rfl, hbehindAttributes⟩ := hbehindTag.exists_cons rfl
      obtain ⟨childrenJson, rest, rfl, hlast⟩ := hbehindAttributes.exists_cons rfl
      obtain rfl := List.map_eq_nil_iff.mp hlast
      exact ⟨tagJson, attributesJson, childrenJson, _, .object hcarries, hitems, hfinish⟩
    all_goals cases hfinish
  · obtain ⟨tagJson, attributesJson, childrenJson, rfl⟩ :=
      List.length_eq_three.mp (Form.length_of_readItems hitems hleast)
    exact ⟨tagJson, attributesJson, childrenJson, read, .array, hitems, hfinish⟩

/-- What is read as an element is one, of attributes and children that were read. -/
theorem exists_of_read {json : Json} (hwhole : json.IsWhole) {node : Node}
    (h : elementForm.read .value json = .ok node) :
    ∃ (tag : String) (attributes : List (Attribute × Json)) (children : List (Node × Json)),
      (∀ a ∈ attributes, a.1.WrittenAs a.2) ∧
      (∀ child ∈ children, child.2.IsWhole ∧ ofJson .value child.2 = .ok child.1) ∧
      ElementRecord (.str tag) (.ofItems (attributes.map (·.2))) (.ofItems (children.map (·.2)))
        json ∧
      node = .element tag (attributes.map (·.1)) (children.map (·.1)) := by
  obtain ⟨_, _, _, read, hrecord, hitems, hfinish⟩ := exists_elementRecord hwhole h
  obtain ⟨tag, _, _, rfl, hattributes, hchildren, rfl⟩ := readItems_elementForm_iff.mp hitems
  cases hfinish
  obtain ⟨attributes, rfl, rfl, hreadAttributes⟩ := Json.readList_eq_ok hattributes
  obtain ⟨children, rfl, rfl, hreadChildren⟩ := Json.readList_eq_ok hchildren
  obtain ⟨hwholeAttributes, hwholeChildren⟩ := hrecord.isWhole hwhole
  refine ⟨tag, attributes, children, ?_, ?_, hrecord, rfl⟩
  · intro a ha
    have hwholeJson := Json.isWhole_ofItems_iff.mp hwholeAttributes a.2 (List.mem_map_of_mem ha)
    exact Attribute.writtenAs_of_ofJson hwholeJson (hreadAttributes a ha)
  · intro child hchild
    exact ⟨Json.isWhole_ofItems_iff.mp hwholeChildren child.2 (List.mem_map_of_mem hchild),
      hreadChildren child hchild⟩

theorem ofJson_element (json : Json) :
    ofJson .value (.ofMembers [("Element", json)]) = elementForm.read .value json := by
  rw [← elementOfJson_eq_read, Json.ofMembers, List.map_singleton, ofJson]
  change (elementOfJson .value json >>= fun node => pure node) = _
  exact bind_pure _

/-- What a tree is written as reads as that tree. -/
theorem ofJson_of_writtenAs {node : Node} {json : Json} (h : node.WrittenAs json) :
    ofJson .value json = .ok node := by
  induction h with
  | text content => rfl
  | comment content => rfl
  | @element tag attributes children json hattributes _ hrecord ih =>
    have hattributes' := Json.readList_ofItems fun a ha =>
      Attribute.ofJson_of_writtenAs (hattributes a ha)
    have hchildren := Json.readList_ofItems ih
    rw [ofJson_element, hrecord.read_eq (readItems_elementForm_iff.mpr
      ⟨tag, _, _, rfl, hattributes', hchildren, rfl⟩)]
    rfl

/-- What is read as a tree names its kind by a key. -/
theorem ofJson_eq_ok {json : Json} {node : Node} (h : ofJson .value json = .ok node) :
    (∃ content, json = .ofMembers [("Text", .str content)] ∧ node = .text content) ∨
    (∃ content, json = .ofMembers [("Comment", .str content)] ∧ node = .comment content) ∨
    ∃ payload, json = .ofMembers [("Element", payload)] ∧
      elementForm.read .value payload = .ok node := by
  unfold ofJson at h
  split at h
  · next key payload others ending =>
    obtain ⟨inner, hinner, h⟩ := bind_eq_ok_iff.mp h
    obtain ⟨name, hname, h⟩ := bind_eq_ok_iff.mp h
    obtain ⟨inside, hinside, h⟩ := bind_eq_ok_iff.mp h
    obtain ⟨⟨⟩, hclose, h⟩ := bind_eq_ok_iff.mp h
    cases h
    obtain ⟨rfl, rfl⟩ := Json.closeVariant_eq_ok hclose
    cases hinner
    obtain ⟨rfl, hmem⟩ := Json.readVariantKey_eq_ok hname
    simp only [variants, List.mem_cons, List.not_mem_nil, or_false] at hmem
    rcases hmem with rfl | rfl | rfl
    · have hread := (elementOfJson_eq_read .value payload).symm.trans hinside
      exact .inr (.inr ⟨payload, rfl, hread⟩)
    · obtain ⟨content, hcontent, rfl⟩ := map_eq_ok_iff.mp hinside
      obtain rfl := Json.readStr_eq_ok_iff.mp hcontent
      exact .inl ⟨content, rfl, rfl⟩
    · obtain ⟨content, hcontent, rfl⟩ := map_eq_ok_iff.mp hinside
      obtain rfl := Json.readStr_eq_ok_iff.mp hcontent
      exact .inr (.inl ⟨content, rfl, rfl⟩)
  · obtain ⟨name, -, h⟩ := bind_eq_ok_iff.mp h
    cases h
  · cases h

mutual

/-- What reads as a tree is one of the ways to write it. -/
theorem writtenAs_of_ofJson : ∀ (node : Node) {json : Json}, json.IsWhole →
    ofJson .value json = .ok node → node.WrittenAs json
  | .text content, json, hwhole, h => by
    obtain ⟨_, rfl, hnode⟩ | ⟨_, -, hnode⟩ | ⟨payload, rfl, hread⟩ := ofJson_eq_ok h
    · cases hnode
      exact .text content
    · cases hnode
    · have hpayload := Json.isWhole_ofMembers_iff.mp hwhole _ (.head _)
      obtain ⟨_, _, _, _, _, _, hnode⟩ := exists_of_read hpayload hread
      cases hnode
  | .comment content, json, hwhole, h => by
    obtain ⟨_, -, hnode⟩ | ⟨_, rfl, hnode⟩ | ⟨payload, rfl, hread⟩ := ofJson_eq_ok h
    · cases hnode
    · cases hnode
      exact .comment content
    · have hpayload := Json.isWhole_ofMembers_iff.mp hwhole _ (.head _)
      obtain ⟨_, _, _, _, _, _, hnode⟩ := exists_of_read hpayload hread
      cases hnode
  | .element tag attributes nodes, json, hwhole, h => by
    obtain ⟨_, -, hnode⟩ | ⟨_, -, hnode⟩ | ⟨payload, rfl, hread⟩ := ofJson_eq_ok h
    · cases hnode
    · cases hnode
    · have hpayload := Json.isWhole_ofMembers_iff.mp hwhole _ (.head _)
      obtain ⟨_, _, children, hattributes, hchildren, hrecord, hnode⟩ :=
        exists_of_read hpayload hread
      obtain ⟨-, -, hnodes⟩ := Node.element.inj hnode
      have hwritten : ∀ child ∈ children, WrittenAs child.1 child.2 := by
        intro child hchild
        have hmem : child.1 ∈ nodes := hnodes ▸ List.mem_map_of_mem hchild
        obtain ⟨hwholeChild, hread⟩ := hchildren child hchild
        exact writtenAs_of_ofJsonAll nodes child.1 hmem hwholeChild hread
      rw [hnode]
      exact .element hattributes hwritten hrecord

theorem writtenAs_of_ofJsonAll : ∀ (nodes : List Node), ∀ node ∈ nodes, ∀ {json : Json},
    json.IsWhole → ofJson .value json = .ok node → node.WrittenAs json
  | [] => nofun
  | first :: rest => by
    rw [List.forall_mem_cons]
    exact ⟨writtenAs_of_ofJson first, writtenAs_of_ofJsonAll rest⟩

end

/-- Markup trees make the way through JSON and back, and what else is written for a tree in place of
`toJson` reads as that tree. Nothing but what is written for a tree reads as it. -/
theorem json_roundTrip :
    (∀ node : Node, node.WrittenAs node.toJson ∧ ofJson .value node.toJson = .ok node) ∧
    (∀ (json : Json) (node : Node), ofJson .value json = .ok node →
      ofJson .value node.toJson = .ok node) ∧
    (∀ (json : Json) (node : Node), node.WrittenAs json → ofJson .value json = .ok node) ∧
    ∀ (json : Json) (node : Node), json.IsWhole → ofJson .value json = .ok node →
      node.WrittenAs json := by
  have hencoded : ∀ node : Node, ofJson .value node.toJson = .ok node :=
    fun node => ofJson_of_writtenAs node.writtenAs_toJson
  refine ⟨?_, ?_, ?_, ?_⟩
  · intro node
    exact ⟨node.writtenAs_toJson, hencoded node⟩
  · intro _ node _
    exact hencoded node
  · intro _ _ hwritten
    exact ofJson_of_writtenAs hwritten
  · intro _ node hwhole hread
    exact writtenAs_of_ofJson node hwhole hread

/-- A required input in its label, its members in another order and among others, and its attribute
by position. -/
theorem json_roundTrip_label :
    let required : Attribute := ⟨.other "required", none⟩
    let mail : Attribute := ⟨.other "name", some "mail"⟩
    let label : Node := .element "label" [] [.text "Mail", .element "input" [required, mail] []]
    let json : Json := .ofMembers [("Element", .ofMembers [
      ("children", .ofItems [
        .ofMembers [("Text", .str "Mail")],
        .ofMembers [("Element", .ofMembers [
          ("attributes", .ofItems [
            .ofMembers [("note", .null), ("name", .ofMembers [("Other", .str "required")])],
            .ofItems [.ofMembers [("Other", .str "name")], .str "mail"]]),
          ("children", .ofItems []), ("id", .int 7), ("tag", .str "input")])]]),
      ("tag", .str "label"), ("attributes", .ofItems [])])]
    ofJson .value json = .ok label ∧ ofJson .value label.toJson = .ok label ∧
      label.WrittenAs json := by
  intro required mail label json
  have hrequired : required.WrittenAs
      (.ofMembers [("note", .null), ("name", .ofMembers [("Other", .str "required")])]) :=
    .object (.plain _) .absent ⟨[("note", .null)], @List.perm_append_comm _ [_] [_],
      by simpa using Json.IsWhole.null⟩
  have hmail : mail.WrittenAs (.ofItems [.ofMembers [("Other", .str "name")], .str "mail"]) :=
    .array (.plain _) (.text "mail")
  have hinput := @WrittenAs.element "input" [(_, _), (_, _)] [] (.ofMembers
      [("attributes", .ofItems [_, _]), ("children", .ofItems []), ("id", .int 7),
        ("tag", .str "input")])
    (List.forall_mem_cons.mpr ⟨hrequired, List.forall_mem_singleton.mpr hmail⟩) nofun
    (.object ⟨[("id", .int 7)], @List.perm_append_comm _ [_, _, _] [_],
      by simpa using Json.IsWhole.int 7⟩)
  have hlabel := @WrittenAs.element "label" [] [(_, _), (_, _)] (.ofMembers
      [("children", .ofItems [_, _]), ("tag", .str "label"), ("attributes", .ofItems [])]) nofun
    (List.forall_mem_cons.mpr ⟨.text "Mail", List.forall_mem_singleton.mpr hinput⟩)
    (.object ⟨[], @List.perm_append_comm _ [_] [_, _], nofun⟩)
  obtain ⟨-, hagain, hread, hwritten⟩ := json_roundTrip
  have hwhole : json.IsWhole := by
    simp [json, Json.isWhole_ofMembers_iff, Json.isWhole_ofItems_iff, Json.IsWhole.null,
      Json.IsWhole.int, Json.IsWhole.str]
  have hlabelRead : ofJson .value json = .ok label := hread json label hlabel
  exact ⟨hlabelRead, hagain json label hlabelRead, hwritten json label hwhole hlabelRead⟩

end Node

end Scaffold
