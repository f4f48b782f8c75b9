import Scaffold.Proofs.Page.Standard
import Scaffold.Proofs.Respelling.Printed

/-!
# The standard bodies can be respelled

A themed page whose texts are free of keywords writes none by accident: all else on it is plain. Its
texts do not touch, so each is looked at by itself, and no keyword comes together from two of them.
-/

namespace Scaffold

/-! ### Texts apart -/

/-- No two texts are next to each other among the children of a node. -/
def Node.keepsTextsApart : Node → Bool
  | .element _ _ children => textsApart children
  | _ => true

/-- Texts that are apart are runs by themselves. -/
theorem keywordFree_textRuns {nodes : List Node} (hapart : textsApart nodes = true)
    (htexts : ∀ content, .text content ∈ nodes → KeywordFree htmlSpellings content.toList) :
    ∀ run ∈ textRuns [] nodes, KeywordFree htmlSpellings run := by
  have hempty : KeywordFree htmlSpellings [] := by decide
  induction nodes with
  | nil => simpa [textRuns] using hempty
  | cons node rest ih =>
    obtain ⟨hnext, hrest⟩ := textsApart_cons hapart
    have hruns := ih hrest fun content hmem => htexts content (List.mem_cons_of_mem node hmem)
    cases node with
    | element | comment => exact List.forall_mem_cons.mpr ⟨hempty, hruns⟩
    | text content =>
      have hcontent := htexts content List.mem_cons_self
      cases rest with
      | nil => simpa [textRuns] using hcontent
      | cons next more =>
        -- the run of the text ends at the next node, in front of which it is empty otherwise
        have hbreak : next.isText = false := hnext rfl next rfl
        cases next with
        | text => simp [Node.isText] at hbreak
        | element | comment =>
          exact List.forall_mem_cons.mpr ⟨hcontent, (List.forall_mem_cons.mp hruns).2⟩

/-! ### Themed pages -/

theorem Attribute.IsPlain.isRespellable {a : Attribute} (h : a.IsPlain) : a.IsRespellable := by
  cases h with
  | own hname hvalue =>
    have hfree := keywordFree_of_plain hname.1
    exact ⟨⟨hfree, fun _ => hname.2⟩, fun v hv => keywordFree_of_plain (hvalue v hv)⟩
  | @keyword name value hclass hown hvalue =>
    refine ⟨?_, by simpa using keywordFree_of_plain hvalue⟩
    cases name with
    | other own => exact absurd rfl (hown own)
    | _ => rfl

theorem ThemedAttributes.isRespellable {classed : Bool} {attributes : Look → List Attribute}
    (h : ThemedAttributes classed attributes) (look : Look) :
    ∀ a ∈ attributes look, a.IsRespellable := by
  cases h with
  | fixed has => exact fun a ha => (has a ha).isRespellable
  | classes hfront hv hback =>
    simp only [List.forall_mem_append, List.forall_mem_cons]
    refine ⟨fun a ha => (hfront a ha).isRespellable, ⟨rfl, ?_⟩,
      fun a ha => (hback a ha).isRespellable⟩
    simpa using keywordFree_of_plain (hv.plain look)

/-- Which nodes are texts does not depend on the look, nor so whether texts touch. -/
theorem Themed.keepsTextsApart_congr {P : (Look → String) → Prop} {nodes : Look → List Node}
    (h : Themed P nodes) (look look' : Look) :
    (nodes look).head?.any Node.isText = (nodes look').head?.any Node.isText ∧
      textsApart (nodes look) = textsApart (nodes look') ∧
      (Node.walkAll (nodes look)).all Node.keepsTextsApart =
        (Node.walkAll (nodes look')).all Node.keepsTextsApart := by
  induction h with
  | nil => exact ⟨rfl, rfl, rfl⟩
  | text _ _ ih | comment _ _ ih =>
    obtain ⟨hhead, hapart, hwalk⟩ := ih
    exact ⟨rfl, by simp [textsApart_eq, Node.isText, hhead, hapart],
      by simp [Node.walkAll, Node.walk, Node.keepsTextsApart, hwalk]⟩
  | element _ _ _ _ ihchildren ih =>
    obtain ⟨hhead, hapart, hwalk⟩ := ih
    obtain ⟨-, hinside, hchildren⟩ := ihchildren
    exact ⟨rfl, by simp [textsApart_eq, Node.isText, hhead, hapart],
      by simp [Node.walkAll, Node.walk, Node.keepsTextsApart, hinside, hchildren, hwalk]⟩

theorem Page.keepsTextsApart_standardBody (archetype : Archetype) :
    (standardBody archetype {}).walk.all Node.keepsTextsApart = true := by
  cases archetype <;> decide +kernel

theorem Page.keepsTextsApart_placeholder (name : String) :
    (placeholder name {}).walk.all Node.keepsTextsApart = true := rfl

/-! ### Keywords -/

section Neutral

variable {look : Look} (happ : KeywordFree htmlSpellings look.appName.toList)
include happ

/-- Neither the texts among the nodes nor what stands in them has a keyword. -/
theorem Themed.keywordFree {nodes : Look → List Node} (h : Themed KeepsNeutral nodes)
    (hapart : ∀ node ∈ Node.walkAll (nodes look), node.keepsTextsApart = true) :
    (∀ content, .text content ∈ nodes look → KeywordFree htmlSpellings content.toList) ∧
      ∀ node ∈ Node.walkAll (nodes look), node.OwnPartsRespellable := by
  induction h with
  | nil => simp [Node.walkAll]
  | text hcontent _ ih =>
    simp only [Node.walkAll, Node.walk, List.forall_mem_append, List.forall_mem_cons] at hapart ⊢
    obtain ⟨htexts, hnodes⟩ := ih hapart.2
    refine ⟨fun content hmem => ?_, ⟨trivial, by simp⟩, hnodes⟩
    rcases List.mem_cons.mp hmem with heq | hmem
    · rw [Node.text.inj heq]
      exact hcontent.keywordFree look happ
    · exact htexts content hmem
  | comment hcontent _ ih =>
    simp only [Node.walkAll, Node.walk, List.forall_mem_append, List.forall_mem_cons] at hapart ⊢
    obtain ⟨htexts, hnodes⟩ := ih hapart.2
    exact ⟨by simpa using htexts, ⟨keywordFree_of_plain hcontent, by simp⟩, hnodes⟩
  | element htag hattributes _ _ ihchildren ih =>
    simp only [Node.walkAll, Node.walk, List.forall_mem_append, List.forall_mem_cons] at hapart ⊢
    obtain ⟨⟨hown, hinside⟩, hbehind⟩ := hapart
    obtain ⟨hinner, hchildren⟩ := ihchildren hinside
    obtain ⟨htexts, hnodes⟩ := ih hbehind
    have hruns := keywordFree_textRuns hown hinner
    exact ⟨by simpa using htexts,
      ⟨⟨keywordFree_of_plain htag, hattributes.isRespellable look, hruns⟩, hchildren⟩, hnodes⟩

/-- It is enough that texts do not touch in one look. -/
theorem ThemedPage.isRespellable {page : Look → Node} (h : ThemedPage KeepsNeutral page)
    {other : Look} (hapart : (page other).walk.all Node.keepsTextsApart = true) :
    (page look).IsRespellable := by
  have hwalk : ∀ node : Node, Node.walkAll [node] = node.walk := fun node => by
    rw [Node.walkAll, Node.walkAll, List.append_nil]
  have heq := (h.themed.keepsTextsApart_congr look other).2.2
  rw [hwalk, hwalk, hapart, List.all_eq_true, ← hwalk] at heq
  have hparts := (h.themed.keywordFree happ heq).2
  rw [hwalk] at hparts
  -- the root is no text
  cases h
  have hempty : KeywordFree htmlSpellings [] := by decide
  exact ⟨List.forall_mem_cons.mpr ⟨hempty, by simpa [textRuns] using hempty⟩, hparts⟩

/-- The body of a name with keywords in neither form in which the page shows it. -/
theorem BodyTable.isRespellable_standard_body {archetype : ArchetypeName}
    (hname : ∀ name, archetype = .unknown name →
      KeywordFree htmlSpellings name.toList ∧
        KeywordFree htmlSpellings (PageName.title name).toList) :
    (standard.body archetype look).IsRespellable := by
  cases archetype with
  | known archetype =>
    rw [standard_body_known]
    exact (Page.themed_standardBody archetype).isRespellable happ
      (Page.keepsTextsApart_standardBody archetype)
  | unknown name =>
    obtain ⟨hname, htitle⟩ := hname name rfl
    exact (Page.keepsNeutral_placeholder hname htitle).isRespellable happ
      (Page.keepsTextsApart_placeholder name)

end Neutral

end Scaffold
