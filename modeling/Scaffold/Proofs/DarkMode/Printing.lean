import Scaffold.Proofs.DarkMode.Darkens
import Scaffold.Proofs.Markup.Layout
import Scaffold.Proofs.Page.Widget

/-!
# A page printed in the dark

A themed page is printed alike with and without dark mode, but for the dark classes at the end of
its class lists. Both looks lay it out in the same way, since the layout goes by the tags alone.
-/

namespace Scaffold

/-- The keyword of the class list. -/
def classKeyword (d : Dialect) : List Char := (AttrName.classList.keyword d).toList

theorem isClassChar_classKeyword (d : Dialect) : ∀ c ∈ classKeyword d, isClassChar c = true := by
  cases d with
  | jsx => exact List.all_eq_true.mp (by decide)
  | html => exact List.all_eq_true.mp (by decide)

/-! ### Tags -/

theorem insideTag_of_plain {s : String} (h : Plain s) : InsideTag s.toList :=
  (insideValue_of_plain h).insideTag

theorem Attribute.IsPlain.plain_keyword {a : Attribute} (h : a.IsPlain) (d : Dialect) :
    Plain (a.name.keyword d) := by
  cases h with
  | own hname => exact hname.1
  | @keyword name value hclass hown =>
    cases name with
    | other own => exact absurd rfl (hown own)
    | _ => cases d <;> exact .lit rfl

theorem Attribute.IsPlain.plain_value {a : Attribute} (h : a.IsPlain) : ∀ v ∈ a.value, Plain v := by
  cases h with
  | own _ hvalue => exact hvalue
  | keyword _ _ hvalue => simpa using hvalue

/-- The quotes of an attribute are a pair. -/
theorem insideTag_attributeText {a : Attribute} (h : a.IsPlain) (d : Dialect) :
    InsideTag (attributeText d a) := by
  have hkeyword := insideTag_of_plain (h.plain_keyword d)
  have hblank : InsideTag [' '] := ⟨List.forall_mem_singleton.mpr (by decide), by decide⟩
  obtain ⟨name, value⟩ := a
  cases value with
  | none => exact hblank.append hkeyword
  | some value =>
    have hvalue := insideTag_of_plain (h.plain_value value rfl)
    have hquoted : InsideTag ('=' :: '"' :: (value.toList ++ ['"'])) := by
      constructor
      · simp only [List.forall_mem_cons, List.forall_mem_append]
        exact ⟨by decide, by decide, hvalue.noSign, by decide, List.forall_mem_nil _⟩
      · have hclosed := hvalue.closed
        simp [List.count_append]
        omega
    exact (hblank.append hkeyword).append hquoted

theorem insideTag_attributes {as : List Attribute} (h : ∀ a ∈ as, a.IsPlain) (d : Dialect) :
    InsideTag (as.flatMap (attributeText d)) := by
  induction as with
  | nil => exact ⟨by simp, rfl⟩
  | cons a as ih =>
    rw [List.forall_mem_cons] at h
    exact (insideTag_attributeText h.1 d).append (ih h.2)

section Look

variable (d : Dialect) (app : String)

/-- A tag with classes to which dark mode adds some. -/
theorem darkens_classList {tag : String} (htag : Plain tag) {front : List Attribute}
    (hfront : ∀ a ∈ front, a.IsPlain) {base run : List Char}
    (hbase : ∀ c ∈ base, isPlainChar c = true) (hrun : IsDarkRun run) {light dark : String}
    (hlight : light.toList = base) (hdark : dark.toList = base ++ run) (back : List Attribute) :
    Darkens (classKeyword d) 1
      ('<' :: (tag.toList ++
        (front ++ ⟨.classList, some light⟩ :: back).flatMap (attributeText d)))
      ('<' :: (tag.toList ++
        (front ++ ⟨.classList, some dark⟩ :: back).flatMap (attributeText d))) := by
  have hbetween := (insideTag_of_plain htag).append (insideTag_attributes hfront d)
  have hback : Darkens (classKeyword d) 0 (back.flatMap (attributeText d))
      (back.flatMap (attributeText d)) := .refl _
  have hwhole := hback.run hbetween (insideValue_of_plain hbase) hrun
  simpa [opensClassList, classKeyword, attributeText, hlight, hdark] using hwhole

theorem ThemedAttributes.darkens {tag : String} (htag : Plain tag) {classed : Bool}
    {attributes : Look → List Attribute} (h : ThemedAttributes classed attributes) :
    ∃ n, Darkens (classKeyword d) n
      ('<' :: (tag.toList ++ (attributes ⟨app, false⟩).flatMap (attributeText d)))
      ('<' :: (tag.toList ++ (attributes ⟨app, true⟩).flatMap (attributeText d))) := by
  cases h with
  | fixed => exact ⟨0, .refl _⟩
  | @classes front back v hfront hv =>
    -- a class list may have no dark classes: then the tag is the same in both looks
    obtain ⟨base, run, hbase, hrun, heq⟩ := hv
    have hlight : (v ⟨app, false⟩).toList = base.toList := by simp [heq]
    have hdark : (v ⟨app, true⟩).toList = base.toList ++ run := by simp [heq]
    rcases hrun with rfl | hrun
    · have hsame : v ⟨app, true⟩ = v ⟨app, false⟩ := by
        rw [← String.toList_inj, hlight, hdark, List.append_nil]
      simp only [hsame]
      exact ⟨0, .refl _⟩
    · exact ⟨1, darkens_classList d htag hfront hbase hrun hlight hdark back⟩

/-! ### Siblings -/

/-- Siblings that are laid out alike and printed alike but for dark classes. -/
structure PrintsDarker (light dark : List Node) : Prop where
  inline : Node.allInline light = Node.allInline dark
  flat : ∃ n, Darkens (classKeyword d) n (Node.writeAllFlat d light) (Node.writeAllFlat d dark)
  lines : ∀ depth, ∃ n, Darkens (classKeyword d) n (Node.writeAllLines d depth light)
    (Node.writeAllLines d depth dark)

variable {d}

theorem PrintsDarker.same (node : Node) {light dark : List Node} (h : PrintsDarker d light dark) :
    PrintsDarker d (node :: light) (node :: dark) := by
  obtain ⟨hinline, ⟨n, hflat⟩, hlines⟩ := h
  refine ⟨congrArg (node.isInline && ·) hinline, ⟨n, hflat.append_left _⟩, fun depth => ?_⟩
  obtain ⟨m, hlines⟩ := hlines depth
  exact ⟨m, hlines.append_left _⟩

/-- What stands behind the attributes of an element. -/
theorem PrintsDarker.behindAttributes {light dark : List Node} (h : PrintsDarker d light dark)
    (depth : Nat) (tag : String) :
    ∃ n, Darkens (classKeyword d) n (Node.behindAttributes d depth tag light)
      (Node.behindAttributes d depth tag dark) := by
  obtain ⟨n, hflat⟩ := h.flat
  obtain ⟨m, hlines⟩ := h.lines (depth + 1)
  simp only [Node.behindAttributes, Node.inside, h.inline]
  split
  · exact ⟨0, .refl _⟩
  · split
    · exact ⟨n, ((hflat.append_right _).append_right _).append_left ['>']⟩
    · exact ⟨m, (((hlines.append_right _).append_right _).append_right _).append_left ['>', '\n']⟩

theorem PrintsDarker.element {tag : String} {as bs : List Attribute}
    (htag : ∃ n, Darkens (classKeyword d) n
      ('<' :: (tag.toList ++ as.flatMap (attributeText d)))
      ('<' :: (tag.toList ++ bs.flatMap (attributeText d))))
    {light dark rest rest' : List Node} (hchildren : PrintsDarker d light dark)
    (hrest : PrintsDarker d rest rest') :
    PrintsDarker d (.element tag as light :: rest) (.element tag bs dark :: rest') := by
  obtain ⟨n, htag⟩ := htag
  refine ⟨?_, ?_, fun depth => ?_⟩
  · simp only [Node.allInline, Node.isInline, hchildren.inline, hrest.inline]
  · obtain ⟨k, hinside⟩ := hchildren.flat
    obtain ⟨m, hmore⟩ := hrest.flat
    simp only [Node.writeAllFlat, Node.writeFlat]
    split
    · exact ⟨_, (htag.append_right [' ', '/', '>']).append hmore⟩
    · have hwhole := ((htag.append ((hinside.append_right (closeTag tag)).append_left ['>'])).append
        hmore)
      exact ⟨_, by simpa [openTag] using hwhole⟩
  · obtain ⟨k, hbehind⟩ := hchildren.behindAttributes depth tag
    obtain ⟨m, hmore⟩ := hrest.lines depth
    have hwhole := ((htag.append hbehind).append_left (indentation depth)).append hmore
    simp only [Node.writeAllLines, Node.writeLines_element]
    exact ⟨_, by simpa using hwhole⟩

theorem Themed.printsDarker {nodes : Look → List Node} (h : Themed ShowsName nodes) :
    PrintsDarker d (nodes ⟨app, false⟩) (nodes ⟨app, true⟩) := by
  induction h with
  | nil => exact ⟨rfl, ⟨0, .nil⟩, fun _ => ⟨0, .nil⟩⟩
  | text hcontent _ ih =>
    simp only [hcontent ⟨app, false⟩ ⟨app, true⟩ rfl]
    exact ih.same _
  | comment _ _ ih => exact ih.same _
  | element htag hattributes _ _ ihchildren ih =>
    exact .element (hattributes.darkens d app htag) ihchildren ih

/-! ### Pages -/

/-- A page has dark classes in its shell at least. -/
theorem ThemedPage.darkens {page : Look → Node} (h : ThemedPage ShowsName page) :
    ∃ n, Darkens (classKeyword d) (n + 1) ((page ⟨app, false⟩).render d).toList
      ((page ⟨app, true⟩).render d).toList := by
  cases h with
  | @intro tag base dark children htag hbase hdark hchildren =>
    have hlight : ((⟨app, false⟩ : Look).classes base dark).toList = base.toList := by
      simp [toList_classes]
    have hadded : ((⟨app, true⟩ : Look).classes base dark).toList =
        base.toList ++ ' ' :: dark.toList := by
      simp [toList_classes]
    have hopen := darkens_classList d htag (List.forall_mem_nil _) hbase hdark hlight hadded []
    obtain ⟨n, hbehind⟩ := (hchildren.printsDarker (d := d) app).behindAttributes 0 tag
    refine ⟨n, Darkens.of_append_newline ?_⟩
    rw [Node.render_element_append_newline, Node.render_element_append_newline, Nat.add_comm]
    exact hopen.append hbehind

end Look

end Scaffold
