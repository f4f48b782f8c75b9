import Scaffold.Markup.Element
import Scaffold.Proofs.Page.Plain

/-!
# Themed pages

A page is *themed* when it depends on its look in two ways only: dark mode adds dark classes at the
end of class lists, and the name of the application stands in texts. All else is fixed and plain.

A page is built up element by element, and so is the proof that it is themed: `ThemedElement` has
one rule for each way to add to an element. The property is a parameter `P` of texts, so that the rules
serve pages of which more is known than that their texts show the name.
-/

namespace Scaffold

open Text

/-! ### Attributes -/

/-- A name that is no keyword of the neutral dialect, nor ends in one. -/
def PlainName (name : String) : Prop :=
  Plain name ∧ KeywordFree htmlSpellings (name.toList ++ ['='])

def isPlainName (name : List Char) : Bool :=
  name.all isPlainChar && KeywordFree htmlSpellings (name ++ ['='])

theorem PlainName.lit {name : List Char} (h : isPlainName name = true) :
    PlainName (String.ofList name) := by
  obtain ⟨hplain, hfree⟩ := Bool.and_eq_true_iff.mp h
  exact ⟨.lit hplain, by rw [String.toList_ofList]; exact of_decide_eq_true hfree⟩

/-- An attribute beside the class list, with a value if its name has a keyword. -/
inductive Attribute.IsPlain : Attribute → Prop
  | own {name : String} {value : Option String} (hname : PlainName name)
    (hvalue : ∀ v ∈ value, Plain v) : IsPlain ⟨.other name, value⟩
  | keyword {name : AttrName} {value : String} (hclass : name ≠ .classList)
    (hname : ∀ own, name ≠ .other own) (hvalue : Plain value) : IsPlain ⟨name, some value⟩

theorem extendClasses_of_plain {as : List Attribute} (h : ∀ a ∈ as, a.IsPlain) (classes : String) :
    Element.extendClasses classes as = none := by
  induction as with
  | nil => rfl
  | cons a as ih =>
    have hname : a.name ≠ .classList := by
      cases h a List.mem_cons_self with
      | own => simp
      | keyword hclass => exact hclass
    simp [Element.extendClasses, hname, ih fun b hb => h b (List.mem_cons_of_mem a hb)]

/-- Attributes of which at most one depends on the look, the class list; the flag tells whether
there is one. -/
inductive ThemedAttributes : Bool → (Look → List Attribute) → Prop
  | fixed {as : List Attribute} (h : ∀ a ∈ as, a.IsPlain) : ThemedAttributes false fun _ => as
  | classes {front back : List Attribute} {v : Look → String} (hfront : ∀ a ∈ front, a.IsPlain)
    (hv : ThemedClasses v) (hback : ∀ a ∈ back, a.IsPlain) :
    ThemedAttributes true fun look => front ++ ⟨.classList, some (v look)⟩ :: back

theorem ThemedAttributes.add {classed : Bool} {as : Look → List Attribute}
    (h : ThemedAttributes classed as) {a : Attribute} (ha : a.IsPlain) :
    ThemedAttributes classed fun look => as look ++ [a] := by
  have happend : ∀ {as : List Attribute}, (∀ b ∈ as, b.IsPlain) → ∀ b ∈ as ++ [a], b.IsPlain := by
    intro as has b hb
    rcases List.mem_append.mp hb with hb | hb
    · exact has b hb
    · exact List.mem_singleton.mp hb ▸ ha
  cases h with
  | fixed has => exact .fixed (happend has)
  | classes hfront hv hback => simpa using ThemedAttributes.classes hfront hv (happend hback)

/-! ### Pages -/

section Pages

variable {P : (Look → String) → Prop}

/-- Siblings that depend on the look by dark classes and by texts with `P` only. -/
inductive Themed (P : (Look → String) → Prop) : (Look → List Node) → Prop
  | nil : Themed P fun _ => []
  | text {content : Look → String} {rest : Look → List Node} (hcontent : P content)
    (hrest : Themed P rest) : Themed P fun look => .text (content look) :: rest look
  | comment {content : String} {rest : Look → List Node} (hcontent : Plain content)
    (hrest : Themed P rest) : Themed P fun look => .comment content :: rest look
  | element {tag : String} {classed : Bool} {attributes : Look → List Attribute}
    {children rest : Look → List Node} (htag : Plain tag)
    (hattributes : ThemedAttributes classed attributes) (hchildren : Themed P children)
    (hrest : Themed P rest) :
    Themed P fun look => .element tag (attributes look) (children look) :: rest look

theorem Themed.append {nodes more : Look → List Node} (h : Themed P nodes) (hmore : Themed P more) :
    Themed P fun look => nodes look ++ more look := by
  induction h with
  | nil => exact hmore
  | text hcontent _ ih => exact .text hcontent ih
  | comment hcontent _ ih => exact .comment hcontent ih
  | element htag hattributes hchildren _ _ ih => exact .element htag hattributes hchildren ih

theorem Themed.imp {Q : (Look → String) → Prop} (hPQ : ∀ content, P content → Q content)
    {nodes : Look → List Node} (h : Themed P nodes) : Themed Q nodes := by
  induction h with
  | nil => exact .nil
  | text hcontent _ ih => exact .text (hPQ _ hcontent) ih
  | comment hcontent _ ih => exact .comment hcontent ih
  | element htag hattributes _ _ ihchildren ih => exact .element htag hattributes ihchildren ih

/-- An element as it is built up; the flag tells whether it has classes. -/
def ThemedElement (P : (Look → String) → Prop) (classed : Bool) (e : Look → Element) : Prop :=
  ∃ (tag : String) (attributes : Look → List Attribute) (children : Look → List Node),
    (e = fun look => ⟨tag, attributes look, children look⟩) ∧ Plain tag ∧
      ThemedAttributes classed attributes ∧ Themed P children

theorem Themed.cons {classed : Bool} {e : Look → Element} (he : ThemedElement P classed e)
    {rest : Look → List Node} (hrest : Themed P rest) :
    Themed P fun look => (e look).toNode :: rest look := by
  obtain ⟨tag, attributes, children, rfl, htag, hattributes, hchildren⟩ := he
  exact .element htag hattributes hchildren hrest

end Pages

/-! ### Building elements -/

namespace ThemedElement

variable {P : (Look → String) → Prop} {classed classed' : Bool} {e : Look → Element}

theorem start {tag : List Char} (htag : tag.all isPlainChar = true) :
    ThemedElement P false fun _ => element (String.ofList tag) :=
  ⟨String.ofList tag, _, _, rfl, .lit htag, .fixed (List.forall_mem_nil _), .nil⟩

theorem addAttribute (he : ThemedElement P classed e) {name : AttrName} {value : Option String}
    (ha : Attribute.IsPlain ⟨name, value⟩) :
    ThemedElement P classed fun look => (e look).addAttribute name value := by
  obtain ⟨tag, attributes, children, rfl, htag, hattributes, hchildren⟩ := he
  exact ⟨tag, _, children, rfl, htag, hattributes.add ha, hchildren⟩

theorem attr (he : ThemedElement P classed e) {name : List Char} {value : String}
    (hname : isPlainName name = true) (hvalue : Plain value) :
    ThemedElement P classed fun look => (e look).attr (String.ofList name) value :=
  he.addAttribute (.own (.lit hname) (by simpa using hvalue))

theorem flag (he : ThemedElement P classed e) {name : List Char}
    (hname : isPlainName name = true) :
    ThemedElement P classed fun look => (e look).flag (String.ofList name) :=
  he.addAttribute (.own (.lit hname) (by simp))

theorem labelFor (he : ThemedElement P classed e) {id : String} (hid : Plain id) :
    ThemedElement P classed fun look => (e look).labelFor id :=
  he.addAttribute (.keyword (by simp) (by simp) hid)

theorem stroke (he : ThemedElement P classed e) {width : String} (hwidth : Plain width) :
    ThemedElement P classed fun look => (e look).stroke width := by
  have hround : Plain "round" := .lit rfl
  exact ((he.addAttribute (.keyword (by simp) (by simp) hround)).addAttribute
    (.keyword (by simp) (by simp) hround)).addAttribute (.keyword (by simp) (by simp) hwidth)

/-- The first classes of an element. -/
theorem classes (he : ThemedElement P false e) {v : Look → String} (hv : ThemedClasses v) :
    ThemedElement P true fun look => (e look).classes (v look) := by
  obtain ⟨tag, attributes, children, rfl, htag, hattributes, hchildren⟩ := he
  cases hattributes with
  | @fixed as has =>
    -- there is no class list yet, so one is put behind the attributes
    have hattributes : ThemedAttributes true fun look => as ++ [⟨.classList, some (v look)⟩] :=
      .classes has hv (by simp)
    refine ⟨tag, _, children, ?_, htag, hattributes, hchildren⟩
    funext look
    simp [Element.classes, extendClasses_of_plain has, Element.addAttribute]

/-- Classes in two steps. -/
theorem startClasses {tag first more : List Char} (htag : tag.all isPlainChar = true)
    (hfirst : (first.all isPlainChar && !first.isEmpty) = true)
    (hmore : more.all isPlainChar = true) :
    ThemedElement P true fun _ =>
      ((element (String.ofList tag)).classes (String.ofList first)).classes
        (String.ofList more) := by
  obtain ⟨hplain, hne⟩ := Bool.and_eq_true_iff.mp hfirst
  have hne' : String.ofList first ≠ "" := by simpa using hne
  have hjoin : ((element (String.ofList tag)).classes (String.ofList first)).classes
      (String.ofList more) =
      (element (String.ofList tag)).classes (String.ofList first ++ " " ++ String.ofList more) := by
    simp [Element.classes, element, Element.extendClasses, Element.addAttribute,
      Element.joinClasses, hne']
  have hclasses : Plain (String.ofList first ++ " " ++ String.ofList more) :=
    .append (.append (.lit hplain) (.lit rfl)) (.lit hmore)
  rw [hjoin]
  exact start htag |>.classes (.fixed hclasses)

theorem append (he : ThemedElement P classed e) {nodes : Look → List Node}
    (hnodes : Themed P nodes) :
    ThemedElement P classed fun look => (e look).append (nodes look) := by
  obtain ⟨tag, attributes, children, rfl, htag, hattributes, hchildren⟩ := he
  exact ⟨tag, attributes, _, rfl, htag, hattributes, hchildren.append hnodes⟩

theorem text (he : ThemedElement P classed e) {content : Look → String} (hcontent : P content) :
    ThemedElement P classed fun look => (e look).text (content look) :=
  he.append (.text hcontent .nil)

theorem comment (he : ThemedElement P classed e) {content : List Char}
    (hcontent : content.all isPlainChar = true) :
    ThemedElement P classed fun look => (e look).comment (String.ofList content) :=
  he.append (.comment (.lit hcontent) .nil)

theorem child (he : ThemedElement P classed e) {node : Look → Element}
    (hnode : ThemedElement P classed' node) :
    ThemedElement P classed fun look => (e look).child (node look).toNode :=
  he.append (.cons hnode .nil)

theorem elements (he : ThemedElement P classed e) {α : Type} {items : List α}
    {node : Look → α → Element}
    (hnode : ∀ item ∈ items, ThemedElement P classed' fun look => node look item) :
    ThemedElement P classed fun look => (e look).elements (items.map (node look)) := by
  have hnodes : Themed P fun look => (items.map (node look)).map Element.toNode := by
    induction items with
    | nil => exact .nil
    | cons item items ih =>
      rw [List.forall_mem_cons] at hnode
      exact .cons hnode.1 (ih hnode.2)
  exact he.append hnodes

theorem ite {p : Prop} [Decidable p] {e' : Look → Element} (he : ThemedElement P classed e)
    (he' : ThemedElement P classed e') :
    ThemedElement P classed fun look => if p then e look else e' look := by
  by_cases hp : p
  · simpa [hp] using he
  · simpa [hp] using he'

end ThemedElement

end Scaffold
