import Mathlib.Data.List.Infix
import Scaffold.Proofs.Markup.Layout
import Scaffold.Text.Space

/-!
# Printed trees are read in one way

A printed tree determines the tree, and where it ends in a longer text:

    t.writeLines d depth ++ rest = u.writeLines d depth ++ rest' → t = u ∧ rest = rest'

for trees whose names, values and texts hold none of the characters that the printer puts behind
them, and whose texts do not touch. Every part is printed up to a character it cannot contain, so
two equal texts can be compared part by part (`append_inj_of_stops`). Which layout an element has is
read off the character behind its open tag, and whether it has another child off the character in
front of it.
-/

namespace Scaffold

open Text

/-! ### Clean trees -/

/-- What is said of the characters of a text is decided along the text. -/
local instance (priority := 2000) decidableForallMem (cs : List Char) (p : Char → Prop)
    [DecidablePred p] : Decidable (∀ c ∈ cs, p c) :=
  List.decidableBAll p cs

/-- Every spelling of a name that depends on the dialect. -/
def dialectKeywords : List String :=
  [AttrName.classList, .labelFor, .strokeWidth, .strokeLinecap, .strokeLinejoin].flatMap
    fun name => [name.keyword .jsx, name.keyword .html]

/-- A name of its own is no spelling of another one, and nothing in it could end it. -/
def AttrName.IsClean : AttrName → Prop
  | .other own =>
    own ≠ "" ∧ own ∉ dialectKeywords ∧
      ∀ c ∈ own.toList, isSpace c = false ∧ c ∉ ['"', '\'', '=', '<', '>', '/']
  | _ => True

instance : DecidablePred AttrName.IsClean
  | .other _ => inferInstanceAs (Decidable (_ ∧ _ ∧ _))
  | .classList | .labelFor | .strokeWidth | .strokeLinecap | .strokeLinejoin =>
    inferInstanceAs (Decidable True)

def Attribute.IsClean (a : Attribute) : Prop :=
  a.name.IsClean ∧ ∀ value ∈ a.value, '"' ∉ value.toList

instance (a : Attribute) : Decidable a.IsClean := inferInstanceAs (Decidable (_ ∧ _))

def isTagChar (c : Char) : Bool := c.isAlphanum || c == '-'

/-- What a node writes itself can be told from what is written around it. -/
def Node.OwnPartsClean : Node → Prop
  | .element tag attributes children =>
    tag ≠ "" ∧ (∀ c ∈ tag.toList, isTagChar c = true) ∧ (∀ a ∈ attributes, a.IsClean) ∧
      textsApart children = true ∧ (isVoidTag tag = true → children.isEmpty = true)
  | .text content => content ≠ "" ∧ ∀ c ∈ content.toList, c ∉ ['<', '\x7b', '\n']
  | .comment content => '\n' ∉ content.toList

instance : DecidablePred Node.OwnPartsClean
  | .element _ _ _ => inferInstanceAs (Decidable (_ ∧ _ ∧ _ ∧ _ ∧ (_ → _)))
  | .text _ => inferInstanceAs (Decidable (_ ∧ _))
  | .comment _ => inferInstanceAs (Decidable (_ ∉ _))

def Node.IsClean (tree : Node) : Prop := ∀ node ∈ tree.walk, node.OwnPartsClean

instance (tree : Node) : Decidable tree.IsClean :=
  inferInstanceAs (Decidable (∀ node ∈ tree.walk, _))

theorem Node.IsClean.own {t : Node} (h : t.IsClean) : t.OwnPartsClean := by
  refine h t ?_
  cases t <;> simp [Node.walk]

theorem Node.IsClean.children {tag : String} {attributes : List Attribute} {children : List Node}
    (h : (Node.element tag attributes children).IsClean) :
    ∀ node ∈ Node.walkAll children, node.OwnPartsClean := by
  intro node hnode
  exact h node (by simp [Node.walk, hnode])

/-! ### Parts -/

/-- Two parts of equal texts are equal when both go up to the first character that stops them. -/
theorem append_inj_of_stops {stops : Char → Bool} {u v r s : List Char} (h : u ++ r = v ++ s)
    (hu : ∀ c ∈ u, stops c = false) (hv : ∀ c ∈ v, stops c = false)
    (hr : r.head?.any stops = true) (hs : s.head?.any stops = true) : u = v ∧ r = s := by
  induction u generalizing v with
  | nil =>
    cases v with
    | nil => exact ⟨rfl, h⟩
    | cons c v =>
      rw [List.nil_append] at h
      have hc := hv c List.mem_cons_self
      simp [h, hc] at hr
  | cons c u ih =>
    cases v with
    | nil =>
      rw [List.nil_append] at h
      have hc := hu c List.mem_cons_self
      simp [← h, hc] at hs
    | cons e v =>
      obtain ⟨rfl, hrest⟩ := List.cons.inj h
      obtain ⟨rfl, rfl⟩ := ih hrest (fun d hd => hu d (List.mem_cons_of_mem c hd))
        (fun d hd => hv d (List.mem_cons_of_mem c hd))
      exact ⟨rfl, rfl⟩

/-- The same for a single character that neither part contains. -/
theorem append_inj_of_not_mem {u v r s : List Char} {c : Char} (h : u ++ c :: r = v ++ c :: s)
    (hu : c ∉ u) (hv : c ∉ v) : u = v ∧ r = s := by
  have hstops : ∀ w : List Char, c ∉ w → ∀ d ∈ w, (d == c) = false := by
    rintro w hw d hd
    exact beq_false_of_ne fun heq => hw (heq ▸ hd)
  obtain ⟨huv, hrs⟩ := append_inj_of_stops h (hstops u hu) (hstops v hv) (by simp) (by simp)
  exact ⟨huv, (List.cons.inj hrs).2⟩

/-! ### Attributes -/

/-- What may stand behind the keyword of an attribute. -/
def endsKeyword (c : Char) : Bool := c == ' ' || c == '=' || c == '>'

/-- What may stand behind the attributes of a tag. -/
def ClosesTag (cs : List Char) : Prop := ['>'] <+: cs ∨ [' ', '/'] <+: cs

theorem keyword_mem_dialectKeywords {name : AttrName} (h : ∀ own, name ≠ .other own)
    (d : Dialect) : name.keyword d ∈ dialectKeywords := by
  cases name with
  | other own => exact absurd rfl (h own)
  | _ => cases d <;> decide

theorem AttrName.keyword_inj {d : Dialect} {m n : AttrName} (hm : m.IsClean) (hn : n.IsClean)
    (h : m.keyword d = n.keyword d) : m = n := by
  by_cases hown : ∃ own, m = .other own
  · obtain ⟨own, rfl⟩ := hown
    by_cases hown' : ∃ own', n = .other own'
    · obtain ⟨own', rfl⟩ := hown'
      exact congrArg AttrName.other h
    · rw [not_exists] at hown'
      have hmem := keyword_mem_dialectKeywords hown' d
      rw [← h] at hmem
      exact absurd hmem hm.2.1
  · rw [not_exists] at hown
    cases n with
    | other own' =>
      have hmem := keyword_mem_dialectKeywords hown d
      rw [h] at hmem
      exact absurd hmem hn.2.1
    -- within a dialect the keywords are told apart
    | _ => cases m <;> cases d <;> simp_all [AttrName.keyword]

/-- A keyword goes up to what ends it, and does not start like the end of a void tag. -/
theorem AttrName.keyword_spec {n : AttrName} (hn : n.IsClean) (d : Dialect) :
    (∀ c ∈ (n.keyword d).toList, endsKeyword c = false) ∧
      ∃ c more, (n.keyword d).toList = c :: more ∧ c ≠ '/' := by
  cases n with
  | other own =>
    obtain ⟨hne, -, hchars⟩ := hn
    constructor
    · intro c hc
      obtain ⟨hspace, hmem⟩ := hchars c hc
      have hblank : c ≠ ' ' := by
        rintro rfl
        exact absurd hspace (by decide)
      simp only [List.mem_cons, not_or] at hmem
      simp [endsKeyword, hblank, hmem]
    · have hchars' : own.toList ≠ [] := by simpa using hne
      obtain ⟨c, more, hcons⟩ := List.exists_cons_of_ne_nil hchars'
      have hslash := (hchars c (by simp [hcons])).2
      exact ⟨c, more, hcons, fun heq => hslash (by simp [heq])⟩
  | _ =>
    cases d with
    | _ => exact ⟨by decide, _, _, rfl, by decide⟩

/-- What is behind the keyword of an attribute. -/
def valueText : Option String → List Char
  | none => []
  | some value => '=' :: '"' :: (value.toList ++ ['"'])

theorem attributeText_eq (d : Dialect) (a : Attribute) :
    attributeText d a = ' ' :: ((a.name.keyword d).toList ++ valueText a.value) := by
  obtain ⟨name, value⟩ := a
  cases value <;> simp [attributeText, valueText]

theorem valueText_append_inj {v w : Option String} {r s : List Char}
    (hv : ∀ value ∈ v, '"' ∉ value.toList) (hw : ∀ value ∈ w, '"' ∉ value.toList)
    (hr : r.head? ≠ some '=') (hs : s.head? ≠ some '=')
    (h : valueText v ++ r = valueText w ++ s) : v = w ∧ r = s := by
  cases v with
  | none =>
    cases w with
    | none => exact ⟨rfl, h⟩
    | some value => exact absurd (by simp [valueText] at h; simp [h]) hr
  | some value =>
    cases w with
    | none => exact absurd (by simp [valueText] at h; simp [← h]) hs
    | some value' =>
      have h' : value.toList ++ '"' :: r = value'.toList ++ '"' :: s := by
        simpa [valueText] using h
      obtain ⟨hvalue, hrest⟩ := append_inj_of_not_mem h' (hv value rfl) (hw value' rfl)
      exact ⟨congrArg some (String.toList_inj.mp hvalue), hrest⟩

/-- The attributes of a tag and what closes it start with a blank or an angle bracket. -/
theorem head?_attributes (d : Dialect) (as : List Attribute) {r : List Char} (hr : ClosesTag r) :
    ∃ c rest, as.flatMap (attributeText d) ++ r = c :: rest ∧ (c = ' ' ∨ c = '>') := by
  cases as with
  | nil =>
    rcases hr with ⟨rest, rfl⟩ | ⟨rest, rfl⟩
    · exact ⟨'>', rest, rfl, .inr rfl⟩
    · exact ⟨' ', '/' :: rest, rfl, .inl rfl⟩
  | cons a as =>
    rw [List.flatMap_cons, attributeText_eq]
    exact ⟨' ', _, rfl, .inl rfl⟩

/-- No attribute is taken for the end of its tag. -/
theorem not_closesTag_attribute {a : Attribute} (ha : a.IsClean) (d : Dialect) (r : List Char) :
    ¬ ClosesTag (attributeText d a ++ r) := by
  obtain ⟨-, c, more, hcons, hslash⟩ := AttrName.keyword_spec ha.1 d
  rw [attributeText_eq, hcons]
  rintro (h | h)
  · simp at h
  · simp [hslash.symm] at h

theorem attributes_append_inj {d : Dialect} {as bs : List Attribute} {r s : List Char}
    (has : ∀ a ∈ as, a.IsClean) (hbs : ∀ b ∈ bs, b.IsClean) (hr : ClosesTag r) (hs : ClosesTag s)
    (h : as.flatMap (attributeText d) ++ r = bs.flatMap (attributeText d) ++ s) :
    as = bs ∧ r = s := by
  induction as generalizing bs with
  | nil =>
    cases bs with
    | nil => exact ⟨rfl, h⟩
    | cons b bs =>
      rw [List.flatMap_nil, List.nil_append] at h
      rw [h, List.flatMap_cons, List.append_assoc] at hr
      exact absurd hr (not_closesTag_attribute (hbs b List.mem_cons_self) d _)
  | cons a as ih =>
    cases bs with
    | nil =>
      rw [List.flatMap_nil, List.nil_append] at h
      rw [← h, List.flatMap_cons, List.append_assoc] at hs
      exact absurd hs (not_closesTag_attribute (has a List.mem_cons_self) d _)
    | cons b bs =>
      have ha := has a List.mem_cons_self
      have hb := hbs b List.mem_cons_self
      -- what follows the first attribute starts with a character that ends a keyword
      obtain ⟨c, rest, hrest, hc⟩ := head?_attributes d as hr
      obtain ⟨e, rest', hrest', he⟩ := head?_attributes d bs hs
      have hends : ∀ v : Option String, ∀ c rest, c = ' ' ∨ c = '>' →
          (valueText v ++ c :: rest).head?.any endsKeyword = true := by
        rintro (- | value) c rest (rfl | rfl) <;> rfl
      have h' : (a.name.keyword d).toList ++ (valueText a.value ++ c :: rest) =
          (b.name.keyword d).toList ++ (valueText b.value ++ e :: rest') := by
        simpa [attributeText_eq, ← hrest, ← hrest'] using h
      obtain ⟨hkeyword, hvalues⟩ := append_inj_of_stops h' (AttrName.keyword_spec ha.1 d).1
        (AttrName.keyword_spec hb.1 d).1 (hends _ c rest hc) (hends _ e rest' he)
      have hname := AttrName.keyword_inj ha.1 hb.1 (String.toList_inj.mp hkeyword)
      obtain ⟨hvalue, hmore⟩ := valueText_append_inj ha.2 hb.2
        (by rcases hc with rfl | rfl <;> simp) (by rcases he with rfl | rfl <;> simp) hvalues
      rw [← hrest, ← hrest'] at hmore
      obtain ⟨rfl, rfl⟩ := ih (fun x hx => has x (List.mem_cons_of_mem a hx))
        (fun x hx => hbs x (List.mem_cons_of_mem b hx)) hmore
      obtain ⟨name, value⟩ := a
      obtain ⟨name', value'⟩ := b
      simp only at hname hvalue
      subst hname hvalue
      exact ⟨rfl, rfl⟩

/-! ### Tags -/

/-- A tag goes up to a character that no tag contains. -/
theorem tag_append_inj {d : Dialect} {tag tag' : String} {as bs : List Attribute} {r s : List Char}
    (htag : ∀ c ∈ tag.toList, isTagChar c = true) (htag' : ∀ c ∈ tag'.toList, isTagChar c = true)
    (has : ∀ a ∈ as, a.IsClean) (hbs : ∀ b ∈ bs, b.IsClean) (hr : ClosesTag r) (hs : ClosesTag s)
    (h : tag.toList ++ as.flatMap (attributeText d) ++ r =
      tag'.toList ++ bs.flatMap (attributeText d) ++ s) : tag = tag' ∧ as = bs ∧ r = s := by
  have hends : ∀ cs : List Char, ∀ c rest, cs = c :: rest → c = ' ' ∨ c = '>' →
      cs.head?.any (!isTagChar ·) = true := by
    rintro cs c rest rfl (rfl | rfl) <;> rfl
  obtain ⟨c, rest, hrest, hc⟩ := head?_attributes d as hr
  obtain ⟨e, rest', hrest', he⟩ := head?_attributes d bs hs
  rw [List.append_assoc, List.append_assoc] at h
  obtain ⟨heq, hmore⟩ := append_inj_of_stops h (by simpa using htag) (by simpa using htag')
    (hends _ c rest hrest hc) (hends _ e rest' hrest' he)
  exact ⟨String.toList_inj.mp heq, attributes_append_inj has hbs hr hs hmore⟩

theorem Node.closesTag_behindAttributes (d : Dialect) (depth : Nat) (tag : String)
    (children : List Node) (rest : List Char) :
    ClosesTag (Node.behindAttributes d depth tag children ++ rest) := by
  rw [Node.behindAttributes]
  split
  · exact .inr (by simp)
  · exact .inl (by simp)

/-! ### What starts at a place -/

inductive NodeKind where
  | element
  | text
  | comment
  deriving DecidableEq

def Node.kind : Node → NodeKind
  | .element _ _ _ => .element
  | .text _ => .text
  | .comment _ => .comment

/-- The kind of the node that is printed here. -/
def kindAt : List Char → NodeKind
  | '\x7b' :: _ => .comment
  | '<' :: '!' :: _ => .comment
  | '<' :: _ => .element
  | _ => .text

/-- How a node starts, whatever its layout. -/
def Node.opening (d : Dialect) : Node → List Char
  | .element tag _ _ => '<' :: tag.toList
  | .text content => content.toList
  | .comment content => (commentText d content).toList

theorem Node.writeFlat_eq_opening (d : Dialect) (t : Node) :
    ∃ more, t.writeFlat d = t.opening d ++ more := by
  cases t with
  | text content => exact ⟨[], by simp [Node.writeFlat, Node.opening]⟩
  | comment content => exact ⟨[], by simp [Node.writeFlat, Node.opening]⟩
  | element tag as children =>
    rw [Node.writeFlat]
    split
    · exact ⟨as.flatMap (attributeText d) ++ [' ', '/', '>'], by simp [voidTag, Node.opening]⟩
    · exact ⟨as.flatMap (attributeText d) ++ '>' :: (Node.writeAllFlat d children ++ closeTag tag),
        by simp [openTag, Node.opening]⟩

theorem Node.writeLines_eq_opening (d : Dialect) (depth : Nat) (t : Node) :
    ∃ more, t.writeLines d depth = indentation depth ++ (t.opening d ++ more) := by
  cases t with
  | text content => exact ⟨['\n'], by simp [Node.writeLines, Node.opening]⟩
  | comment content => exact ⟨['\n'], by simp [Node.writeLines, Node.opening]⟩
  | element tag as children =>
    exact ⟨as.flatMap (attributeText d) ++ Node.behindAttributes d depth tag children,
      by simp [Node.writeLines_element, Node.opening]⟩

/-- A tag starts with none of the characters by which comments and close tags start. -/
theorem exists_tag_cons {tag : String} (hne : tag ≠ "")
    (htag : ∀ c ∈ tag.toList, isTagChar c = true) :
    ∃ c rest, tag.toList = c :: rest ∧ c ≠ '!' ∧ c ≠ '/' := by
  have hne' : tag.toList ≠ [] := by simpa using hne
  obtain ⟨c, rest, hcons⟩ := List.exists_cons_of_ne_nil hne'
  have hc := htag c (by simp [hcons])
  refine ⟨c, rest, hcons, ?_, ?_⟩
  · rintro rfl
    exact absurd hc (by decide)
  · rintro rfl
    exact absurd hc (by decide)

theorem exists_text_cons {content : String} (h : (Node.text content).OwnPartsClean) :
    ∃ c rest, content.toList = c :: rest ∧ c ∉ ['<', '\x7b', '\n'] := by
  have hne : content.toList ≠ [] := by simpa using h.1
  obtain ⟨c, rest, hcons⟩ := List.exists_cons_of_ne_nil hne
  exact ⟨c, rest, hcons, h.2 c (by simp [hcons])⟩

theorem Node.OwnPartsClean.kindAt_opening {t : Node} (h : t.OwnPartsClean) (d : Dialect)
    (rest : List Char) : kindAt (t.opening d ++ rest) = t.kind := by
  cases t with
  | element tag as children =>
    obtain ⟨c, more, hcons, hbang, -⟩ := exists_tag_cons h.1 h.2.1
    rw [Node.opening, hcons, List.cons_append, kindAt.eq_def]
    split <;> simp_all [Node.kind]
  | comment content => cases d <;> simp [Node.opening, commentText, kindAt, Node.kind]
  | text content =>
    obtain ⟨c, more, hcons, hc⟩ := exists_text_cons h
    rw [Node.opening, hcons, List.cons_append, kindAt.eq_def]
    split <;> simp_all [Node.kind]

/-- No node is taken for the close tag of its parent. -/
theorem Node.OwnPartsClean.not_closes_opening {t : Node} (h : t.OwnPartsClean) (d : Dialect)
    (rest : List Char) : ¬ ['<', '/'] <+: t.opening d ++ rest := by
  intro hp
  cases t with
  | element tag as children =>
    obtain ⟨c, more, hcons, -, hslash⟩ := exists_tag_cons h.1 h.2.1
    rw [Node.opening, hcons] at hp
    simp [hslash.symm] at hp
  | comment content => cases d <;> simp [Node.opening, commentText] at hp
  | text content =>
    obtain ⟨c, more, hcons, hc⟩ := exists_text_cons h
    rw [Node.opening, hcons, List.cons_append, List.cons_prefix_cons] at hp
    exact hc (by simp [← hp.1])

theorem Node.OwnPartsClean.head?_opening {t : Node} (h : t.OwnPartsClean) (d : Dialect)
    (rest : List Char) : (t.opening d ++ rest).head? ≠ some '\n' := by
  cases t with
  | element tag as children => simp [Node.opening]
  | comment content => cases d <;> simp [Node.opening, commentText]
  | text content =>
    obtain ⟨c, more, hcons, hc⟩ := exists_text_cons h
    rintro heq
    exact hc (by simp_all [Node.opening])

/-! ### One line -/

theorem not_isVoidTag_of_inline {tag : String} (h : inlineTags.contains tag = true) :
    isVoidTag tag = false := by
  have hall : ∀ tag ∈ inlineTags, isVoidTag tag = false := by decide
  exact hall tag (List.contains_iff_mem.mp h)

theorem Node.isInline_element {tag : String} {as : List Attribute} {children : List Node} :
    (Node.element tag as children).isInline = true ↔
      inlineTags.contains tag = true ∧ Node.allInline children = true := by
  rw [Node.isInline, Bool.and_eq_true]

theorem Node.allInline_cons {n : Node} {rest : List Node} :
    Node.allInline (n :: rest) = true ↔ n.isInline = true ∧ Node.allInline rest = true := by
  rw [Node.allInline, Bool.and_eq_true]

/-- Behind a text in a line comes a tag. -/
theorem head?_writeAllFlat {d : Dialect} {nodes : List Node} (hinline : Node.allInline nodes = true)
    (htext : ∀ next ∈ nodes.head?, next.isText = false) (rest : List Char) :
    (Node.writeAllFlat d nodes ++ '<' :: rest).head? = some '<' := by
  cases nodes with
  | nil => rfl
  | cons next nodes =>
    cases next with
    | text content => simp [Node.isText] at htext
    | comment content => simp [Node.allInline, Node.isInline] at hinline
    | element tag as children =>
      obtain ⟨more, hmore⟩ := Node.writeFlat_eq_opening d (.element tag as children)
      simp [Node.writeAllFlat, hmore, Node.opening]

theorem Node.own_of_walkAll_cons {t : Node} {ts : List Node}
    (h : ∀ n ∈ Node.walkAll (t :: ts), n.OwnPartsClean) :
    t.IsClean ∧ ∀ n ∈ Node.walkAll ts, n.OwnPartsClean :=
  ⟨fun n hn => h n (by simp [Node.walkAll, hn]), fun n hn => h n (by simp [Node.walkAll, hn])⟩

/-- Where the nodes of a line go on, the kind of the next one is seen. -/
theorem Node.kindAt_writeAllFlat {t : Node} (ht : t.IsClean) (d : Dialect) (ts : List Node)
    (rest : List Char) : kindAt (Node.writeAllFlat d (t :: ts) ++ rest) = t.kind := by
  obtain ⟨more, hmore⟩ := t.writeFlat_eq_opening d
  rw [Node.writeAllFlat, hmore, List.append_assoc, List.append_assoc, ht.own.kindAt_opening]

/-- Where the nodes of a line go on, no close tag stands. -/
theorem Node.not_closes_writeAllFlat {t : Node} (ht : t.IsClean) (d : Dialect) (ts : List Node)
    (rest : List Char) : ¬ ['<', '/'] <+: Node.writeAllFlat d (t :: ts) ++ rest := by
  obtain ⟨more, hmore⟩ := t.writeFlat_eq_opening d
  rw [Node.writeAllFlat, hmore, List.append_assoc, List.append_assoc]
  exact ht.own.not_closes_opening d _

-- By recursion on the first tree. The rests are arbitrary, so that the siblings behind a node can
-- be taken for the rest of its text.
mutual

/-- An element in a line. -/
theorem Node.writeFlat_append_inj {d : Dialect} (t u : Node) (ht : t.IsClean) (hu : u.IsClean)
    (hti : t.isInline = true) (hui : u.isInline = true) (htk : t.kind = .element)
    (huk : u.kind = .element) {r s : List Char} (h : t.writeFlat d ++ r = u.writeFlat d ++ s) :
    t = u ∧ r = s := by
  cases t with
  | text | comment => cases htk
  | element tag as children =>
    cases u with
    | text | comment => cases huk
    | element tag' bs children' =>
      obtain ⟨htag, hchildren⟩ := Node.isInline_element.mp hti
      obtain ⟨htag', hchildren'⟩ := Node.isInline_element.mp hui
      rw [Node.writeFlat, Node.writeFlat, not_isVoidTag_of_inline htag,
        not_isVoidTag_of_inline htag'] at h
      obtain ⟨-, hchars, has, hapart, -⟩ := ht.own
      obtain ⟨-, hchars', hbs, hapart', -⟩ := hu.own
      have h' : tag.toList ++ as.flatMap (attributeText d) ++
            '>' :: (Node.writeAllFlat d children ++ '<' :: '/' :: (tag.toList ++ '>' :: r)) =
          tag'.toList ++ bs.flatMap (attributeText d) ++
            '>' :: (Node.writeAllFlat d children' ++ '<' :: '/' :: (tag'.toList ++ '>' :: s)) := by
        simpa [openTag, closeTag] using h
      obtain ⟨rfl, rfl, hinside⟩ := tag_append_inj hchars hchars' has hbs (.inl (by simp))
        (.inl (by simp)) h'
      obtain ⟨rfl, hrest⟩ := Node.writeAllFlat_append_inj children children' ht.children
        hu.children hchildren hchildren' hapart hapart' (List.cons.inj hinside).2
      exact ⟨rfl, by simpa using hrest⟩

/-- Nodes in a line, up to a close tag. -/
theorem Node.writeAllFlat_append_inj {d : Dialect} (ts us : List Node)
    (hts : ∀ n ∈ Node.walkAll ts, n.OwnPartsClean) (hus : ∀ n ∈ Node.walkAll us, n.OwnPartsClean)
    (hti : Node.allInline ts = true) (hui : Node.allInline us = true) (hta : textsApart ts = true)
    (hua : textsApart us = true) {r s : List Char}
    (h : Node.writeAllFlat d ts ++ '<' :: '/' :: r = Node.writeAllFlat d us ++ '<' :: '/' :: s) :
    ts = us ∧ r = s := by
  cases ts with
  | nil =>
    cases us with
    | nil => exact ⟨rfl, by simpa [Node.writeAllFlat] using h⟩
    | cons u us =>
      have hu := (Node.own_of_walkAll_cons hus).1
      -- one side is at its close tag, where the other has a node
      exact absurd ⟨r, h⟩ (Node.not_closes_writeAllFlat hu d us _)
  | cons t ts =>
    obtain ⟨ht, hts⟩ := Node.own_of_walkAll_cons hts
    cases us with
    | nil => exact absurd ⟨s, h.symm⟩ (Node.not_closes_writeAllFlat ht d ts _)
    | cons u us =>
      obtain ⟨hu, hus'⟩ := Node.own_of_walkAll_cons hus
      obtain ⟨hti, htsi⟩ := Node.allInline_cons.mp hti
      obtain ⟨hui, husi⟩ := Node.allInline_cons.mp hui
      obtain ⟨htnext, htsa⟩ := textsApart_cons hta
      obtain ⟨hunext, husa⟩ := textsApart_cons hua
      have hkind : t.kind = u.kind := by
        rw [← Node.kindAt_writeAllFlat ht d ts, h, Node.kindAt_writeAllFlat hu]
      rw [Node.writeAllFlat, Node.writeAllFlat, List.append_assoc, List.append_assoc] at h
      have hhead : t = u ∧ Node.writeAllFlat d ts ++ '<' :: '/' :: r =
          Node.writeAllFlat d us ++ '<' :: '/' :: s := by
        cases t with
        | comment content => simp [Node.isInline] at hti
        | element tag as children =>
          exact Node.writeFlat_append_inj _ u ht hu hti hui rfl hkind.symm h
        | text content =>
          cases u with
          | element | comment => cases hkind
          | text content' =>
            -- a tag follows both, the next sibling or the close tag of the parent
            have hchars : ∀ {content : String}, (Node.text content).IsClean →
                ∀ c ∈ content.toList, (c == '<') = false := fun hclean c hc =>
              beq_false_of_ne fun heq => hclean.own.2 c hc (by simp [heq])
            obtain ⟨heq, hrest⟩ := append_inj_of_stops h (hchars ht) (hchars hu)
              (by simp [head?_writeAllFlat htsi (htnext rfl)])
              (by simp [head?_writeAllFlat husi (hunext rfl)])
            exact ⟨congrArg Node.text (String.toList_inj.mp heq), hrest⟩
      obtain ⟨rfl, hmore⟩ := hhead
      obtain ⟨rfl, hrest⟩ := Node.writeAllFlat_append_inj ts us hts hus' htsi husi htsa husa hmore
      exact ⟨rfl, hrest⟩

end

/-! ### Lines -/

theorem commentText_inj {d : Dialect} {content content' : String}
    (h : (commentText d content).toList = (commentText d content').toList) :
    content = content' := by
  cases d <;> simpa [commentText, String.toList_inj] using h

theorem not_newline_mem_commentText {content : String} (h : '\n' ∉ content.toList) (d : Dialect) :
    '\n' ∉ (commentText d content).toList := by
  cases d <;> simp [commentText, h]

/-- Only below its open tag an element goes on with a line feed. -/
theorem Node.head?_inside {children : List Node}
    (h : ∀ n ∈ Node.walkAll children, n.OwnPartsClean) (d : Dialect) (depth : Nat) (tag : String)
    (rest : List Char) :
    (Node.inside d depth tag children ++ rest).head? = some '\n' ↔
      Node.allInline children = false := by
  rw [Node.inside]
  cases hinline : Node.allInline children with
  | false => simp
  | true =>
    cases children with
    | nil => simp [Node.writeAllFlat, closeTag]
    | cons child children =>
      obtain ⟨hchild, -⟩ := Node.own_of_walkAll_cons h
      obtain ⟨more, hmore⟩ := child.writeFlat_eq_opening d
      have hhead := hchild.own.head?_opening d
        (more ++ (Node.writeAllFlat d children ++ (closeTag tag ++ rest)))
      simpa [Node.writeAllFlat, hmore] using hhead

theorem Node.kindAt_writeLines {t : Node} (ht : t.IsClean) (d : Dialect) (depth : Nat)
    {r s : List Char} (h : t.writeLines d depth ++ r = indentation depth ++ s) :
    kindAt s = t.kind := by
  obtain ⟨more, hmore⟩ := t.writeLines_eq_opening d depth
  rw [hmore, List.append_assoc, List.append_cancel_left_eq, List.append_assoc] at h
  rw [← h, ht.own.kindAt_opening]

/-- A child of a block is not taken for the close tag: it is further in. -/
theorem Node.writeAllLines_cons_ne (d : Dialect) (depth : Nat) (t : Node) (ts : List Node)
    {r s : List Char} :
    Node.writeAllLines d (depth + 1) (t :: ts) ++ r ≠ indentation depth ++ '<' :: s := by
  have hdeeper : indentation (depth + 1) = indentation depth ++ [' ', ' '] := by
    simp [indentation, Nat.mul_add, ← List.replicate_append_replicate]
  obtain ⟨more, hmore⟩ := t.writeLines_eq_opening d (depth + 1)
  rw [Node.writeAllLines, hmore, hdeeper]
  simp

-- Along the printer once more. The depth is the same on both sides, since it is read off no text.
mutual

/-- A node on lines of its own. -/
theorem Node.writeLines_append_inj {d : Dialect} (depth : Nat) (t u : Node) (ht : t.IsClean)
    (hu : u.IsClean) {r s : List Char} (h : t.writeLines d depth ++ r = u.writeLines d depth ++ s) :
    t = u ∧ r = s := by
  have hkind : t.kind = u.kind := by
    obtain ⟨more, hmore⟩ := u.writeLines_eq_opening d depth
    have h' := h
    rw [hmore, List.append_assoc, List.append_assoc] at h'
    rw [← Node.kindAt_writeLines ht d depth h', hu.own.kindAt_opening]
  cases t with
  | text content =>
    cases u with
    | element | comment => cases hkind
    | text content' =>
      have hchars : ∀ {content : String}, (Node.text content).IsClean → '\n' ∉ content.toList :=
        fun hclean hmem => hclean.own.2 _ hmem (by simp)
      have h' : content.toList ++ '\n' :: r = content'.toList ++ '\n' :: s := by
        simpa [Node.writeLines] using h
      obtain ⟨heq, hrest⟩ := append_inj_of_not_mem h' (hchars ht) (hchars hu)
      exact ⟨congrArg Node.text (String.toList_inj.mp heq), hrest⟩
  | comment content =>
    cases u with
    | element | text => cases hkind
    | comment content' =>
      have h' : (commentText d content).toList ++ '\n' :: r =
          (commentText d content').toList ++ '\n' :: s := by
        simpa [Node.writeLines] using h
      obtain ⟨heq, hrest⟩ := append_inj_of_not_mem h' (not_newline_mem_commentText ht.own d)
        (not_newline_mem_commentText hu.own d)
      exact ⟨congrArg Node.comment (commentText_inj heq), hrest⟩
  | element tag as children =>
    cases u with
    | text | comment => cases hkind
    | element tag' bs children' =>
      obtain ⟨-, hchars, has, hapart, hvoid⟩ := ht.own
      obtain ⟨-, hchars', hbs, hapart', hvoid'⟩ := hu.own
      have h' : tag.toList ++ as.flatMap (attributeText d) ++
            (Node.behindAttributes d depth tag children ++ r) =
          tag'.toList ++ bs.flatMap (attributeText d) ++
            (Node.behindAttributes d depth tag' children' ++ s) := by
        simpa [Node.writeLines_element] using h
      obtain ⟨rfl, rfl, hbehind⟩ := tag_append_inj hchars hchars' has hbs
        (Node.closesTag_behindAttributes d depth tag children r)
        (Node.closesTag_behindAttributes d depth tag' children' s) h'
      have hchildren : children = children' ∧ r = s := by
        rw [Node.behindAttributes, Node.behindAttributes] at hbehind
        cases htag : isVoidTag tag with
        | true =>
          rw [htag] at hbehind
          rw [List.isEmpty_iff.mp (hvoid htag), List.isEmpty_iff.mp (hvoid' htag)]
          exact ⟨rfl, by simpa using hbehind⟩
        | false =>
          have hinside : Node.inside d depth tag children ++ '\n' :: r =
              Node.inside d depth tag children' ++ '\n' :: s := by
            simpa [htag] using hbehind
          -- the character behind the open tag tells the layout
          have hlayout : Node.allInline children = Node.allInline children' := by
            have hiff := Node.head?_inside ht.children d depth tag ('\n' :: r)
            rw [hinside, Node.head?_inside hu.children] at hiff
            cases h1 : Node.allInline children <;> cases h2 : Node.allInline children' <;>
              simp_all
          rw [Node.inside, Node.inside, ← hlayout] at hinside
          cases hinline : Node.allInline children with
          | true =>
            obtain ⟨hcs, hrest⟩ := Node.writeAllFlat_append_inj children children' ht.children
              hu.children hinline (hlayout ▸ hinline) hapart hapart'
              (by simpa [hinline, closeTag] using hinside)
            exact ⟨hcs, by simpa using hrest⟩
          | false =>
            obtain ⟨hcs, hrest⟩ := Node.writeAllLines_append_inj depth children children'
              ht.children hu.children (by simpa [hinline, closeTag] using hinside)
            exact ⟨hcs, by simpa using hrest⟩
      obtain ⟨rfl, rfl⟩ := hchildren
      exact ⟨rfl, rfl⟩

/-- Nodes on lines of their own, up to the close tag of their parent. -/
theorem Node.writeAllLines_append_inj {d : Dialect} (depth : Nat) (ts us : List Node)
    (hts : ∀ n ∈ Node.walkAll ts, n.OwnPartsClean) (hus : ∀ n ∈ Node.walkAll us, n.OwnPartsClean)
    {r s : List Char}
    (h : Node.writeAllLines d (depth + 1) ts ++ (indentation depth ++ '<' :: r) =
      Node.writeAllLines d (depth + 1) us ++ (indentation depth ++ '<' :: s)) :
    ts = us ∧ r = s := by
  cases ts with
  | nil =>
    cases us with
    | nil => exact ⟨rfl, by simpa [Node.writeAllLines] using h⟩
    | cons u us => exact absurd h.symm (Node.writeAllLines_cons_ne d depth u us)
  | cons t ts =>
    cases us with
    | nil => exact absurd h (Node.writeAllLines_cons_ne d depth t ts)
    | cons u us =>
      obtain ⟨ht, hts⟩ := Node.own_of_walkAll_cons hts
      obtain ⟨hu, hus'⟩ := Node.own_of_walkAll_cons hus
      rw [Node.writeAllLines, Node.writeAllLines, List.append_assoc, List.append_assoc] at h
      obtain ⟨rfl, hmore⟩ := Node.writeLines_append_inj (depth + 1) t u ht hu h
      obtain ⟨rfl, hrest⟩ := Node.writeAllLines_append_inj depth ts us hts hus' hmore
      exact ⟨rfl, hrest⟩

end

/-! ### The whole text -/

/-- One line end closes the lines of a clean tree. -/
theorem Node.IsClean.exists_line_end {t : Node} (h : t.IsClean) (d : Dialect) :
    ∃ front c, t.writeLines d 0 = front ++ [c, '\n'] ∧ c ≠ '\n' := by
  cases t with
  | text content =>
    obtain hnil | ⟨front, c, hlast⟩ := List.eq_nil_or_concat' content.toList
    · exact absurd (by simpa using hnil) h.own.1
    refine ⟨front, c, by simp [Node.writeLines, indentation, hlast], ?_⟩
    have hc := h.own.2 c (by simp [hlast])
    rintro rfl
    exact hc (by simp)
  | comment content =>
    cases d with
    | jsx =>
      exact ⟨"\x7b/* ".toList ++ content.toList ++ " */".toList, '\x7d',
        by simp [Node.writeLines, indentation, commentText], by decide⟩
    | html =>
      exact ⟨"<!-- ".toList ++ content.toList ++ " --".toList, '>',
        by simp [Node.writeLines, indentation, commentText], by decide⟩
  | element tag as children =>
    obtain ⟨front, hfront⟩ := Node.exists_line_end_element d tag as children
    exact ⟨front, '>', hfront, by decide⟩

/-- Only the last line end of a clean tree is left out of its text. -/
theorem Node.IsClean.writeLines_eq_render {t : Node} (h : t.IsClean) (d : Dialect) :
    t.writeLines d 0 = (t.render d).toList ++ ['\n'] := by
  obtain ⟨front, c, hfront, hc⟩ := h.exists_line_end d
  exact Node.writeLines_eq_append_newline hfront hc

/-- Clean trees of equal texts are equal, in each dialect. -/
theorem render_injective_of_clean (d : Dialect) (t u : Node) (ht : t.IsClean) (hu : u.IsClean)
    (h : t.render d = u.render d) : t = u := by
  have hlines : t.writeLines d 0 ++ [] = u.writeLines d 0 ++ [] := by
    rw [ht.writeLines_eq_render, hu.writeLines_eq_render, h]
  exact (Node.writeLines_append_inj 0 t u ht hu hlines).1

/-- A block with a comment, a text of blanks, a void tag and a line with an element inside. -/
theorem render_injective_of_clean_label :
    let t : Node := element "label"
      |>.labelFor "q"
      |>.flag "hidden"
      |>.comment "*/\x7d Name -->"
      |>.text "  "
      |>.child (element "input" |>.classes "a > b")
      |>.child (element "p" |>.text "x = " |>.child (element "b" |>.text "1"))
    let u : Node := .element "label" [⟨.labelFor, some "q"⟩, ⟨.other "hidden", none⟩]
      [.comment "*/\x7d Name -->", .text "  ", .element "input" [⟨.classList, some "a > b"⟩] [],
        .element "p" [] [.text "x = ", .element "b" [] [.text "1"]]]
    (t.IsClean ∧ u.IsClean ∧ t.render .jsx = u.render .jsx) ∧ t = u := by
  intro t u
  have ht : t.IsClean := by decide
  have hu : u.IsClean := by decide
  have heq : t.render .jsx = u.render .jsx := rfl
  exact ⟨⟨ht, hu, heq⟩, render_injective_of_clean .jsx t u ht hu heq⟩

end Scaffold
