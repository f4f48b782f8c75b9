import Mathlib.Data.List.TakeWhile
import Scaffold.Markup.Element
import Scaffold.Proofs.Text.Lines

/-!
# What is built of an element

An element is built in steps. All of them add at the end, of the attributes or of the children, but
for the classes: the first of them adds an attribute, which those after it find in the midst of the
others and extend. So the element is told by its steps alone (`build_keeps`): what each of them
adds, in their order, with one class list in the place of the first step that names classes.
-/

namespace Scaffold

open Text

/-! ### Class lists -/

/-- The pieces of a text between its blanks. -/
def tokens (isBlank : Char → Bool) (cs : List Char) : List (List Char) :=
  (splitOn isBlank cs).filter (! ·.isEmpty)

theorem splitOn_append_separator {separates : Char → Bool} {c : Char} (hc : separates c = true)
    (front back : List Char) :
    splitOn separates (front ++ c :: back) =
      splitOn separates front ++ splitOn separates back := by
  induction front with
  | nil => exact splitOn_append_cons (by simp) hc back
  | cons d front ih =>
    obtain ⟨piece, more, hfront⟩ := List.exists_cons_of_ne_nil (splitOn_ne_nil separates front)
    rw [hfront, List.cons_append] at ih
    simp only [List.cons_append, splitOn, ih, hfront]
    split <;> rfl

theorem tokens_append_blank {isBlank : Char → Bool} {c : Char} (hc : isBlank c = true)
    (front back : List Char) :
    tokens isBlank (front ++ c :: back) = tokens isBlank front ++ tokens isBlank back := by
  rw [tokens, splitOn_append_separator hc, List.filter_append, tokens, tokens]

namespace Element

theorem tokens_joinClasses {isBlank : Char → Bool} (hblank : isBlank ' ' = true)
    (classes more : String) :
    tokens isBlank (joinClasses classes more).toList =
      tokens isBlank classes.toList ++ tokens isBlank more.toList := by
  unfold joinClasses
  split
  · next hempty =>
    rw [hempty]
    rfl
  · have hjoined : (classes ++ " " ++ more).toList = classes.toList ++ ' ' :: more.toList := by
      simp
    rw [hjoined, tokens_append_blank hblank]

/-- The attribute that holds a class list. -/
def classAttribute (value : String) : Attribute := ⟨.classList, some value⟩

section Classes

variable {e : Element} {front back : List Attribute} {value : String}

theorem extendClasses_append (hfront : ∀ a ∈ front, a.name ≠ .classList) (classes : String)
    (as : List Attribute) :
    extendClasses classes (front ++ as) = (extendClasses classes as).map (front ++ ·) := by
  induction front with
  | nil => simp
  | cons a front ih =>
    rw [List.forall_mem_cons] at hfront
    simp [extendClasses, hfront.1, ih hfront.2, Function.comp_def]

/-- The first classes become an attribute of their own. -/
theorem attributes_classes_of_none (h : ∀ a ∈ e.attributes, a.name ≠ .classList)
    (classes : String) :
    (e.classes classes).attributes = e.attributes ++ [classAttribute classes] := by
  have hnone : extendClasses classes e.attributes = none := by
    simpa [extendClasses] using extendClasses_append h classes []
  simp [Element.classes, hnone, addAttribute, classAttribute]

/-- Later ones go into this attribute, wherever it stands. -/
theorem attributes_classes_of_some (h : e.attributes = front ++ classAttribute value :: back)
    (hfront : ∀ a ∈ front, a.name ≠ .classList) (classes : String) :
    (e.classes classes).attributes =
      front ++ classAttribute (joinClasses value classes) :: back := by
  have hsome : extendClasses classes e.attributes =
      some (front ++ classAttribute (joinClasses value classes) :: back) := by
    rw [h, extendClasses_append hfront]
    simp [extendClasses, classAttribute]
  simp [Element.classes, hsome]

end Classes

/-! ### Steps -/

/-- What can be done to an element. -/
inductive Step where
  | classes (names : String)
  | labelFor (id : String)
  | attr (name value : String)
  | flag (name : String)
  | stroke (width : String)
  | child (node : Node)
  | append (nodes : List Node)
  | text (content : String)
  | comment (content : String)

namespace Step

def apply (e : Element) : Step → Element
  | .classes names => e.classes names
  | .labelFor id => e.labelFor id
  | .attr name value => e.attr name value
  | .flag name => e.flag name
  | .stroke width => e.stroke width
  | .child node => e.child node
  | .append nodes => e.append nodes
  | .text content => e.text content
  | .comment content => e.comment content

/-- The classes that a step names. -/
def classes? : Step → Option String
  | .classes names => some names
  | _ => none

/-- The attributes beside the class list that a step adds. -/
def attributes : Step → List Attribute
  | .labelFor id => [⟨.labelFor, some id⟩]
  | .attr name value => [⟨.other name, some value⟩]
  | .flag name => [⟨.other name, none⟩]
  | .stroke width =>
    [⟨.strokeLinecap, some "round"⟩, ⟨.strokeLinejoin, some "round"⟩, ⟨.strokeWidth, some width⟩]
  | _ => []

/-- The children that a step adds. -/
def nodes : Step → List Node
  | .child node => [node]
  | .append nodes => nodes
  | .text content => [.text content]
  | .comment content => [.comment content]
  | _ => []

variable {e : Element} {step : Step}

theorem tag_apply (e : Element) (step : Step) : (step.apply e).tag = e.tag := by
  cases step with
  | classes classes =>
    simp only [apply, Element.classes]
    split <;> rfl
  | _ => rfl

theorem children_apply (e : Element) (step : Step) :
    (step.apply e).children = e.children ++ step.nodes := by
  cases step with
  | classes classes =>
    simp only [apply, Element.classes, nodes, List.append_nil]
    split <;> rfl
  | labelFor | attr | flag | stroke => exact (List.append_nil e.children).symm
  | child | append | text | comment => rfl

theorem attributes_apply (h : step.classes? = none) :
    (step.apply e).attributes = e.attributes ++ step.attributes := by
  cases step with
  | classes => cases h
  | labelFor | attr | flag => rfl
  | stroke width =>
    simp [apply, Element.stroke, addAttribute, attributes]
  | child | append | text | comment => exact (List.append_nil e.attributes).symm

theorem eq_classes_of_classes? {names : String} (h : step.classes? = some names) :
    step = .classes names := by
  cases step with
  | classes => exact congrArg classes (Option.some.inj h)
  | _ => cases h

theorem name_ne_of_mem_attributes {a : Attribute} (h : a ∈ step.attributes) :
    a.name ≠ .classList := by
  cases step with
  | stroke width =>
    simp only [attributes, List.mem_cons, List.not_mem_nil, or_false] at h
    rcases h with rfl | rfl | rfl <;> simp
  | labelFor | attr | flag => rw [List.mem_singleton.mp h]; simp
  | classes | child | append | text | comment => cases h

end Step

/-- The element that is built of a bare one. -/
def build (tag : String) (steps : List Step) : Element := steps.foldl Step.apply (element tag)

/-! ### Runs of steps -/

section Runs

variable {e : Element} {steps : List Step}

theorem tag_foldl_apply (e : Element) (steps : List Step) :
    (steps.foldl Step.apply e).tag = e.tag := by
  induction steps generalizing e with
  | nil => rfl
  | cons step steps ih => rw [List.foldl_cons, ih, step.tag_apply]

theorem children_foldl_apply (e : Element) (steps : List Step) :
    (steps.foldl Step.apply e).children = e.children ++ steps.flatMap Step.nodes := by
  induction steps generalizing e with
  | nil => simp
  | cons step steps ih =>
    rw [List.foldl_cons, ih, step.children_apply, List.flatMap_cons, List.append_assoc]

theorem name_ne_of_mem_flatMap {a : Attribute} (h : a ∈ steps.flatMap Step.attributes) :
    a.name ≠ .classList := by
  obtain ⟨step, -, ha⟩ := List.mem_flatMap.mp h
  exact Step.name_ne_of_mem_attributes ha

/-- Without classes all attributes go behind those that are there. -/
theorem attributes_foldl_apply_of_none (h : ∀ step ∈ steps, step.classes? = none) (e : Element) :
    (steps.foldl Step.apply e).attributes = e.attributes ++ steps.flatMap Step.attributes := by
  induction steps generalizing e with
  | nil => simp
  | cons step steps ih =>
    rw [List.forall_mem_cons] at h
    rw [List.foldl_cons, ih h.2, Step.attributes_apply h.1, List.flatMap_cons, List.append_assoc]

/-- Once there is a class list, classes are joined to it where it stands. -/
theorem attributes_foldl_apply_of_some {front back : List Attribute} {value : String}
    (h : e.attributes = front ++ classAttribute value :: back)
    (hfront : ∀ a ∈ front, a.name ≠ .classList) (steps : List Step) :
    (steps.foldl Step.apply e).attributes =
      front ++ classAttribute ((steps.filterMap Step.classes?).foldl joinClasses value) ::
        (back ++ steps.flatMap Step.attributes) := by
  induction steps generalizing e value back with
  | nil => simpa using h
  | cons step steps ih =>
    cases hstep : step.classes? with
    | none =>
      have hnext := Step.attributes_apply (e := e) hstep
      rw [h, List.append_assoc, List.cons_append] at hnext
      rw [List.foldl_cons, ih hnext, List.filterMap_cons_none hstep, List.flatMap_cons,
        List.append_assoc]
    | some classes =>
      obtain rfl := Step.eq_classes_of_classes? hstep
      have hnext : (Step.apply e (.classes classes)).attributes =
          front ++ classAttribute (joinClasses value classes) :: back :=
        attributes_classes_of_some h hfront classes
      rw [List.foldl_cons, ih hnext, List.filterMap_cons_some hstep, List.foldl_cons,
        List.flatMap_cons]
      rfl

end Runs

/-! ### The element that is built -/

/-- The classes of several steps in one list, if there are any. -/
def joinAll : List String → Option String
  | [] => none
  | classes :: more => some (more.foldl joinClasses classes)

theorem tokens_foldl_joinClasses {isBlank : Char → Bool} (hblank : isBlank ' ' = true)
    (classes : String) (more : List String) :
    tokens isBlank (more.foldl joinClasses classes).toList =
      (classes :: more).flatMap fun part => tokens isBlank part.toList := by
  induction more generalizing classes with
  | nil => simp
  | cons part more ih =>
    rw [List.foldl_cons, ih, List.flatMap_cons, tokens_joinClasses hblank]
    simp

/-- The steps in front of the first one that names classes. -/
def beforeClasses (steps : List Step) : List Step := steps.takeWhile (·.classes?.isNone)

/-- The first step that names classes, and those behind it. -/
def fromClasses (steps : List Step) : List Step := steps.dropWhile (·.classes?.isNone)

theorem beforeClasses_append_fromClasses (steps : List Step) :
    beforeClasses steps ++ fromClasses steps = steps :=
  List.takeWhile_append_dropWhile

theorem classes?_of_mem_beforeClasses {steps : List Step} {step : Step}
    (h : step ∈ beforeClasses steps) : step.classes? = none := by
  simpa using List.mem_takeWhile_imp h

theorem exists_classes_of_fromClasses {steps rest : List Step} {step : Step}
    (h : fromClasses steps = step :: rest) : ∃ classes, step = .classes classes := by
  have hstep := List.head?_dropWhile_not (·.classes?.isNone) steps
  rw [← fromClasses, h] at hstep
  obtain ⟨classes, hclasses⟩ := Option.isSome_iff_exists.mp (Option.isNone_eq_false_iff.mp hstep)
  exact ⟨classes, Step.eq_classes_of_classes? hclasses⟩

/-- The attributes of an element, of which the class list stands where the first step that names
classes put it. -/
theorem attributes_build (tag : String) (steps : List Step) :
    (build tag steps).attributes =
      (beforeClasses steps).flatMap Step.attributes ++
        (joinAll (steps.filterMap Step.classes?)).toList.map classAttribute ++
        (fromClasses steps).flatMap Step.attributes := by
  have hsplit := beforeClasses_append_fromClasses steps
  have hbefore : ∀ step ∈ beforeClasses steps, step.classes? = none := fun step =>
    classes?_of_mem_beforeClasses
  have hplain : ∀ a ∈ (beforeClasses steps).flatMap Step.attributes, a.name ≠ .classList :=
    fun a => name_ne_of_mem_flatMap
  have hnone : (beforeClasses steps).filterMap Step.classes? = [] :=
    List.filterMap_eq_nil_iff.mpr hbefore
  have hfront : ((beforeClasses steps).foldl Step.apply (element tag)).attributes =
      (beforeClasses steps).flatMap Step.attributes :=
    attributes_foldl_apply_of_none hbefore (element tag)
  cases hfrom : fromClasses steps with
  | nil =>
    -- no step names classes
    rw [hfrom, List.append_nil] at hsplit
    rw [hsplit] at hfront hnone
    simp [hsplit, hnone, build, hfront, joinAll]
  | cons step rest =>
    -- the class list goes behind what was added up to here, and later steps go behind it
    obtain ⟨classes, rfl⟩ := exists_classes_of_fromClasses hfrom
    have hadded := attributes_classes_of_none (hfront ▸ hplain) classes
    rw [hfront] at hadded
    have hrest := attributes_foldl_apply_of_some hadded hplain rest
    rw [hfrom] at hsplit
    have hbuild : build tag steps = rest.foldl Step.apply
        (((beforeClasses steps).foldl Step.apply (element tag)).classes classes) := by
      calc build tag steps
          = (beforeClasses steps ++ .classes classes :: rest).foldl Step.apply (element tag) := by
            rw [hsplit, build]
        _ = _ := List.foldl_append
    have hclasses : joinAll (steps.filterMap Step.classes?) =
        some ((rest.filterMap Step.classes?).foldl joinClasses classes) := by
      calc joinAll (steps.filterMap Step.classes?)
          = joinAll ((beforeClasses steps ++ .classes classes :: rest).filterMap Step.classes?) := by
            rw [hsplit]
        _ = _ := by
            rw [List.filterMap_append, hnone]
            rfl
    rw [hbuild, hrest, hclasses]
    simp [Step.attributes]

theorem filter_flatMap_attributes (steps : List Step) :
    (steps.flatMap Step.attributes).filter (·.name = .classList) = [] ∧
      (steps.flatMap Step.attributes).filter (·.name ≠ .classList) =
        steps.flatMap Step.attributes := by
  have hplain : ∀ a ∈ steps.flatMap Step.attributes, a.name ≠ .classList :=
    fun a => name_ne_of_mem_flatMap
  constructor
  · rw [List.filter_eq_nil_iff]
    intro a ha
    simpa using hplain a ha
  · rw [List.filter_eq_self]
    intro a ha
    simpa using hplain a ha

theorem filter_classAttribute (classes : Option String) :
    (classes.toList.map classAttribute).filter (·.name = .classList) =
        classes.toList.map classAttribute ∧
      (classes.toList.map classAttribute).filter (·.name ≠ .classList) = [] := by
  cases classes <;> simp [classAttribute]

/-- An element has one class list at most. -/
theorem filter_attributes_build (tag : String) (steps : List Step) :
    (build tag steps).attributes.filter (·.name = .classList) =
      (joinAll (steps.filterMap Step.classes?)).toList.map classAttribute := by
  simp only [attributes_build, List.filter_append, (filter_flatMap_attributes _).1,
    (filter_classAttribute _).1, List.nil_append, List.append_nil]

theorem classList?_build (tag : String) (steps : List Step) :
    (build tag steps).classList? = joinAll (steps.filterMap Step.classes?) := by
  rw [classList?, ← List.head?_filter, filter_attributes_build]
  cases joinAll (steps.filterMap Step.classes?) <;> rfl

theorem isSome_joinAll_iff (steps : List Step) :
    (joinAll (steps.filterMap Step.classes?)).isSome ↔
      ∃ classes, Step.classes classes ∈ steps := by
  have hempty : ∀ parts, (joinAll parts).isSome ↔ ∃ part, part ∈ parts := by
    intro parts
    cases parts with
    | nil => simp [joinAll]
    | cons part more => simp [joinAll]
  rw [hempty]
  constructor
  · rintro ⟨classes, h⟩
    obtain ⟨step, hstep, hclasses⟩ := List.mem_filterMap.mp h
    exact ⟨classes, Step.eq_classes_of_classes? hclasses ▸ hstep⟩
  · rintro ⟨classes, h⟩
    exact ⟨classes, List.mem_filterMap.mpr ⟨_, h, rfl⟩⟩

theorem tokens_joinAll {isBlank : Char → Bool} (hblank : isBlank ' ' = true)
    (parts : List String) :
    tokens isBlank ((joinAll parts).getD "").toList =
      parts.flatMap fun classes => tokens isBlank classes.toList := by
  cases parts with
  | nil => rfl
  | cons classes more => exact tokens_foldl_joinClasses hblank classes more

/-- What is built of a bare element by any steps. Its tag stays, its children are those that the
steps add and its attributes, the class list apart, too, all in their order. It has a class list
just when a step names classes, where the first such step put it, and in it, whatever else counts as
a blank beside the space, stand the classes of all steps in their order. -/
theorem build_keeps (tag : String) (steps : List Step) :
    let e := build tag steps
    let classList := e.classList?.toList.map classAttribute
    e.tag = tag ∧
    e.children = steps.flatMap Step.nodes ∧
    e.attributes.filter (·.name ≠ .classList) = steps.flatMap Step.attributes ∧
    e.attributes.filter (·.name = .classList) = classList ∧
    e.attributes = (beforeClasses steps).flatMap Step.attributes ++ classList ++
      (fromClasses steps).flatMap Step.attributes ∧
    (e.classList?.isSome ↔ ∃ classes, Step.classes classes ∈ steps) ∧
    ∀ isBlank : Char → Bool, isBlank ' ' = true →
      tokens isBlank (e.classList?.getD "").toList =
        (steps.filterMap Step.classes?).flatMap fun classes => tokens isBlank classes.toList := by
  intro e classList
  have hlist : e.classList? = joinAll (steps.filterMap Step.classes?) := classList?_build tag steps
  have hattributes := attributes_build tag steps
  have hfilter := filter_attributes_build tag steps
  rw [← hlist] at hattributes hfilter
  refine ⟨tag_foldl_apply _ steps, children_foldl_apply _ steps, ?_, hfilter, hattributes, ?_, ?_⟩
  · rw [hattributes]
    simp only [List.filter_append, (filter_flatMap_attributes _).2, (filter_classAttribute _).2,
      List.append_nil]
    rw [← List.flatMap_append, beforeClasses_append_fromClasses]
  · rw [hlist]
    exact isSome_joinAll_iff steps
  · intro isBlank hblank
    rw [hlist]
    exact tokens_joinAll hblank _

/-- Classes that are added before, between and behind other attributes, an empty list among them. -/
theorem build_keeps_button :
    let steps : List Step := [.flag "disabled", .classes "", .stroke "2", .text "Go",
      .classes "px-4  py-2", .attr "type" "submit", .classes "", .child (.comment "end")]
    let e := build "button" steps
    Text.isSpace ' ' = true ∧
      tokens Text.isSpace (e.classList?.getD "").toList = ["px-4".toList, "py-2".toList] ∧
      e.attributes.map (·.name) = [.other "disabled", .classList, .strokeLinecap, .strokeLinejoin,
        .strokeWidth, .other "type"] ∧
      e.children = [.text "Go", .comment "end"] := by
  intro steps e
  have hblank : Text.isSpace ' ' = true := by decide
  obtain ⟨-, hchildren, -, -, hattributes, -, htokens⟩ := build_keeps "button" steps
  refine ⟨hblank, ?_, ?_, hchildren⟩
  · exact (htokens Text.isSpace hblank).trans (by decide)
  · exact congrArg (List.map (·.name)) hattributes

end Element

end Scaffold
