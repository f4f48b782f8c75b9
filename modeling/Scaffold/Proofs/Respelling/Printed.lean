import Scaffold.Assembly
import Scaffold.Proofs.Markup.Layout
import Scaffold.Proofs.Respelling.KeywordFree

/-!
# Respelling a printed tree

A tree can reach the HTML dialect in two ways: printed in it, or printed in the neutral dialect and
respelled as a text. The two agree on trees that write no keyword by accident,

    Dialect.html.respell (tree.render .jsx) = tree.render .html,

where an accident is a keyword inside a tag, a value, a comment or a run of text, or one that an
attribute name makes up with the equals sign behind it. The printer puts a blank, a quote, an angle
bracket or a line feed around each of these, and no keyword goes across one.
-/

namespace Scaffold

open Text

/-! ### Trees without accidental keywords -/

/-- A keyword that depends on the dialect comes with a value. A name of its own looks like none, nor
does it with the equals sign before a value. -/
def AttrName.IsRespellable (valued : Bool) : AttrName → Prop
  | .other name =>
    KeywordFree htmlSpellings name.toList ∧
      (valued = true → KeywordFree htmlSpellings (name.toList ++ ['=']))
  | _ => valued = true

instance (valued : Bool) : DecidablePred (AttrName.IsRespellable valued)
  | .other _ => inferInstanceAs (Decidable (_ ∧ (_ → _)))
  | .classList | .labelFor | .strokeWidth | .strokeLinecap | .strokeLinejoin =>
    inferInstanceAs (Decidable (valued = true))

def Attribute.IsRespellable (a : Attribute) : Prop :=
  a.name.IsRespellable a.value.isSome ∧
    ∀ value ∈ a.value, KeywordFree htmlSpellings value.toList

instance (a : Attribute) : Decidable a.IsRespellable := inferInstanceAs (Decidable (_ ∧ _))

/-- The texts of the maximal runs of text nodes among siblings, the first of which goes on from
`run`. Siblings that are no texts have an empty run between them. -/
def textRuns (run : List Char) : List Node → List (List Char)
  | [] => [run]
  | .text content :: rest => textRuns (run ++ content.toList) rest
  | _ :: rest => run :: textRuns [] rest

/-- What a node writes itself is free of keywords. A text is looked at together with the texts next
to it, among the children of its parent. -/
def Node.OwnPartsRespellable : Node → Prop
  | .element tag attributes children =>
    KeywordFree htmlSpellings tag.toList ∧ (∀ a ∈ attributes, a.IsRespellable) ∧
      ∀ run ∈ textRuns [] children, KeywordFree htmlSpellings run
  | .text _ => True
  | .comment content => KeywordFree htmlSpellings content.toList

instance : DecidablePred Node.OwnPartsRespellable
  | .element _ _ _ => inferInstanceAs (Decidable (_ ∧ _ ∧ _))
  | .text _ => inferInstanceAs (Decidable True)
  | .comment _ => inferInstanceAs (Decidable (KeywordFree _ _))

/-- Everywhere in the tree keywords stand where the printer writes them, and nowhere else. -/
def Node.IsRespellable (tree : Node) : Prop :=
  (∀ run ∈ textRuns [] [tree], KeywordFree htmlSpellings run) ∧
    ∀ node ∈ tree.walk, node.OwnPartsRespellable

instance (tree : Node) : Decidable tree.IsRespellable := inferInstanceAs (Decidable (_ ∧ _))

/-! ### Parts -/

/-- Wherever a pass meets `neutral`, it writes `html` and goes on behind it. -/
def Respells (neutral html : List Char) : Prop :=
  ∀ rest, onePass htmlSpellings (neutral ++ rest) = html ++ onePass htmlSpellings rest

namespace Respells

theorem nil : Respells [] [] := fun _ => rfl

theorem append {u u' v v' : List Char} (hu : Respells u u') (hv : Respells v v') :
    Respells (u ++ v) (u' ++ v') := by
  intro rest
  rw [List.append_assoc, hu, hv, List.append_assoc]

theorem rule {r : Rule} (hr : r ∈ htmlSpellings) : Respells r.keyword.toList r.spelling.toList :=
  htmlSpellings_orderly.onePass_keyword_append hr

/-- A text at no place of which a keyword starts. -/
theorem self {u : List Char} (h : ∀ r ∈ htmlSpellings, StartsNowhereIn r.keyword.toList u) :
    Respells u u :=
  onePass_append h

end Respells

/-- The text starts with a character that no keyword has behind its first, so it goes on with none
that starts in front of it. -/
def StartsCut (cs : List Char) : Prop := ∃ c rest, cs = c :: rest ∧ Cuts htmlSpellings c

theorem StartsCut.append {cs : List Char} (h : StartsCut cs) (rest : List Char) :
    StartsCut (cs ++ rest) := by
  obtain ⟨c, more, rfl, hc⟩ := h
  exact ⟨c, more ++ rest, rfl, hc⟩

theorem onePass_free_append {u v : List Char} (hu : KeywordFree htmlSpellings u)
    (hv : StartsCut v) : onePass htmlSpellings (u ++ v) = u ++ onePass htmlSpellings v := by
  obtain ⟨c, rest, rfl, hc⟩ := hv
  rw [htmlSpellings_orderly.onePass_append_cons hc, onePass_eq_self hu]

/-- A part that depends on what follows, with a part behind it that does not. -/
theorem Respells.of_cut {u v w w' : List Char}
    (h : ∀ rest, StartsCut rest →
      onePass htmlSpellings (u ++ rest) = v ++ onePass htmlSpellings rest)
    (hw : Respells w w') (hcut : StartsCut w) : Respells (u ++ w) (v ++ w') := by
  intro rest
  rw [List.append_assoc, h _ (hcut.append rest), hw, List.append_assoc]

/-- A text without keywords, up to a character that no keyword contains. -/
theorem Respells.closed {u : List Char} (hu : KeywordFree htmlSpellings u) {c : Char}
    (hc : ∀ r ∈ htmlSpellings, c ∉ r.keyword.toList) : Respells (u ++ [c]) (u ++ [c]) := by
  have hcuts : Cuts htmlSpellings c := fun r hr hmem => hc r hr (List.mem_of_mem_tail hmem)
  have hself : Respells [c] [c] := .self fun r hr =>
    startsNowhereIn_of_not_mem (htmlSpellings_orderly.keyword_ne_nil r hr) (by simpa using hc r hr)
  exact .of_cut (fun rest hrest => onePass_free_append hu hrest) hself ⟨c, [], rfl, hcuts⟩

theorem respells_comment {content : String} (h : KeywordFree htmlSpellings content.toList) :
    Respells (commentText .jsx content).toList (commentText .html content).toList := by
  have hopen : Respells "\x7b/*".toList "<!--".toList := .rule (r := ⟨_, _⟩) (by decide)
  have hclose : Respells "*/\x7d".toList "-->".toList := .rule (r := ⟨_, _⟩) (by decide)
  have hblank : Respells [' '] [' '] := .self (by decide)
  have hcontent := Respells.closed h (c := ' ') (by decide)
  have hwhole := ((hopen.append hblank).append hcontent).append hclose
  simpa [commentText] using hwhole

/-! ### Tags -/

/-- The keyword of a dialect's own name and the equals sign behind it are a rule. -/
theorem AttrName.exists_rule (name : AttrName) (hname : ∀ own, name ≠ .other own) :
    ∃ r ∈ htmlSpellings, r.keyword.toList = (name.keyword .jsx).toList ++ ['='] ∧
      r.spelling.toList = (name.keyword .html).toList ++ ['='] := by
  cases name with
  | other own => exact absurd rfl (hname own)
  | _ => decide

/-- An attribute, up to what ends its name. -/
theorem onePass_attributeText {a : Attribute} (ha : a.IsRespellable) {rest : List Char}
    (hrest : StartsCut rest) :
    onePass htmlSpellings (attributeText .jsx a ++ rest) =
      attributeText .html a ++ onePass htmlSpellings rest := by
  obtain ⟨name, value⟩ := a
  obtain ⟨hname, hvalue⟩ := ha
  have hblank : Respells [' '] [' '] := .self (by decide)
  have hquote : Respells ['"'] ['"'] := .self (by decide)
  cases value with
  | some value =>
    have hclosed := Respells.closed (hvalue value rfl) (c := '"') (by decide)
    -- the equals sign goes with the name: it is the last character of a keyword
    have hkeyword : Respells ((name.keyword .jsx).toList ++ ['='] ++ ['"'])
        ((name.keyword .html).toList ++ ['='] ++ ['"']) := by
      cases hother : name with
      | other own =>
        rw [hother] at hname
        exact .closed (hname.2 rfl) (by decide)
      | _ =>
        obtain ⟨r, hr, hjsx, hhtml⟩ := name.exists_rule (by simp [hother])
        rw [← hother, ← hjsx, ← hhtml]
        exact (Respells.rule hr).append hquote
    have hwhole := ((hblank.append hkeyword).append hclosed) rest
    simpa [attributeText] using hwhole
  | none =>
    cases name with
    | other own =>
      have hwhole := hblank (own.toList ++ rest)
      rw [onePass_free_append hname.1 hrest] at hwhole
      simpa [attributeText, AttrName.keyword] using hwhole
    | _ => exact absurd hname (by decide)

theorem startsCut_attributes (attributes : List Attribute) {rest : List Char}
    (hrest : StartsCut rest) :
    StartsCut (attributes.flatMap (attributeText .jsx) ++ rest) := by
  cases attributes with
  | nil => exact hrest
  | cons a more =>
    obtain ⟨name, value⟩ := a
    have hblank : Cuts htmlSpellings ' ' := by decide
    cases value with
    | some value => exact ⟨' ', _, rfl, hblank⟩
    | none => exact ⟨' ', _, rfl, hblank⟩

theorem onePass_attributes {attributes : List Attribute} (h : ∀ a ∈ attributes, a.IsRespellable)
    {rest : List Char} (hrest : StartsCut rest) :
    onePass htmlSpellings (attributes.flatMap (attributeText .jsx) ++ rest) =
      attributes.flatMap (attributeText .html) ++ onePass htmlSpellings rest := by
  induction attributes with
  | nil => rfl
  | cons a more ih =>
    rw [List.flatMap_cons, List.append_assoc,
      onePass_attributeText (h a List.mem_cons_self) (startsCut_attributes more hrest),
      ih fun b hb => h b (List.mem_cons_of_mem a hb), List.flatMap_cons, List.append_assoc]

/-- A tag with the text that closes it. -/
theorem respells_tag {tag : String} {attributes : List Attribute}
    (htag : KeywordFree htmlSpellings tag.toList) (ha : ∀ a ∈ attributes, a.IsRespellable)
    {closing : List Char} (hclosing : Respells closing closing) (hcut : StartsCut closing) :
    Respells ('<' :: (tag.toList ++ attributes.flatMap (attributeText .jsx) ++ closing))
      ('<' :: (tag.toList ++ attributes.flatMap (attributeText .html) ++ closing)) := by
  have hbracket : Respells ['<'] ['<'] := .self (by decide)
  refine hbracket.append (.of_cut (fun rest hrest => ?_) hclosing hcut)
  rw [List.append_assoc, onePass_free_append htag (startsCut_attributes attributes hrest),
    onePass_attributes ha hrest, List.append_assoc]

theorem respells_openTag {tag : String} {attributes : List Attribute}
    (htag : KeywordFree htmlSpellings tag.toList) (ha : ∀ a ∈ attributes, a.IsRespellable) :
    Respells (openTag .jsx tag attributes) (openTag .html tag attributes) :=
  respells_tag htag ha (.self (by decide)) ⟨'>', [], rfl, by decide⟩

theorem respells_voidTag {tag : String} {attributes : List Attribute}
    (htag : KeywordFree htmlSpellings tag.toList) (ha : ∀ a ∈ attributes, a.IsRespellable) :
    Respells (voidTag .jsx tag attributes) (voidTag .html tag attributes) :=
  respells_tag htag ha (.self (by decide)) ⟨' ', ['/', '>'], rfl, by decide⟩

theorem respells_closeTag {tag : String} (htag : KeywordFree htmlSpellings tag.toList) :
    Respells (closeTag tag) (closeTag tag) := by
  have hopen : Respells ['<', '/'] ['<', '/'] := .self (by decide)
  exact hopen.append (.closed htag (by decide))

theorem startsCut_closeTag (tag : String) : StartsCut (closeTag tag) := ⟨'<', _, rfl, by decide⟩

/-! ### Trees -/

theorem respells_indentation (depth : Nat) : Respells (indentation depth) (indentation depth) := by
  refine .self fun r hr => ?_
  refine startsNowhereIn_of_not_mem (htmlSpellings_orderly.keyword_ne_nil r hr) fun c hc => ?_
  have hblank : ∀ r ∈ htmlSpellings, ' ' ∉ r.keyword.toList := by decide
  rw [List.eq_of_mem_replicate hc]
  exact hblank r hr

/-- A run of texts grows along the siblings. -/
theorem infix_textRun (run : List Char) (nodes : List Node) :
    ∃ whole ∈ textRuns run nodes, run <+: whole := by
  induction nodes generalizing run with
  | nil => exact ⟨run, List.mem_cons_self, List.prefix_rfl⟩
  | cons node rest ih =>
    cases node with
    | text content =>
      obtain ⟨whole, hmem, hp⟩ := ih (run ++ content.toList)
      exact ⟨whole, hmem, (List.prefix_append run _).trans hp⟩
    | element | comment => exact ⟨run, List.mem_cons_self, List.prefix_rfl⟩

/-- A text among siblings is part of a run. -/
theorem keywordFree_of_textRuns {run : List Char} {nodes : List Node}
    (h : ∀ whole ∈ textRuns run nodes, KeywordFree htmlSpellings whole) {content : String}
    (hmem : Node.text content ∈ nodes) : KeywordFree htmlSpellings content.toList := by
  induction nodes generalizing run with
  | nil => simp at hmem
  | cons node rest ih =>
    cases node with
    | text first =>
      rcases List.mem_cons.mp hmem with heq | hrest
      · obtain ⟨whole, hwhole, hp⟩ := infix_textRun (run ++ first.toList) rest
        have hfirst := (List.suffix_append run first.toList).isInfix.trans hp.isInfix
        rw [Node.text.inj heq]
        exact (h whole hwhole).of_isInfix hfirst
      · exact ih h hrest
    | element | comment =>
      have hrest : Node.text content ∈ rest := by simpa using hmem
      exact ih (fun whole hwhole => h whole (List.mem_cons_of_mem run hwhole)) hrest

/-- A node that is no text starts with a bracket or a brace, so it ends a run of texts. -/
theorem startsCut_writeFlat {node : Node} (htext : ∀ content, node ≠ .text content)
    (rest : List Char) : StartsCut (node.writeFlat .jsx ++ rest) := by
  cases node with
  | text content => exact absurd rfl (htext content)
  | comment content =>
    refine ⟨'\x7b', "/* ".toList ++ content.toList ++ " */\x7d".toList ++ rest, ?_, by decide⟩
    simp [Node.writeFlat, commentText]
  | element tag attributes children =>
    rw [Node.writeFlat]
    split
    · exact ⟨'<', _, rfl, by decide⟩
    · exact ⟨'<', _, rfl, by decide⟩

mutual

/-- A node on the line that is being written. -/
theorem respells_writeFlat (node : Node) (h : ∀ n ∈ node.walk, n.OwnPartsRespellable)
    (htext : ∀ content, node ≠ .text content) :
    Respells (node.writeFlat .jsx) (node.writeFlat .html) := by
  cases node with
  | text content => exact absurd rfl (htext content)
  | comment content =>
    exact respells_comment (h (.comment content) (by simp [Node.walk]))
  | element tag attributes children =>
    obtain ⟨htag, ha, hruns⟩ := h (.element tag attributes children) (by simp [Node.walk])
    rw [Node.writeFlat, Node.writeFlat]
    split
    · exact respells_voidTag htag ha
    · have hchildren := onePass_writeAllFlat [] children
        (fun n hn => h n (by simp [Node.walk, hn])) hruns
      rw [List.append_assoc, List.append_assoc]
      exact (respells_openTag htag ha).append
        (.of_cut hchildren (respells_closeTag htag) (startsCut_closeTag tag))

/-- Siblings behind the run of texts that is going on, up to what ends such a run. -/
theorem onePass_writeAllFlat (run : List Char) (nodes : List Node)
    (h : ∀ n ∈ Node.walkAll nodes, n.OwnPartsRespellable)
    (hruns : ∀ whole ∈ textRuns run nodes, KeywordFree htmlSpellings whole) (rest : List Char)
    (hrest : StartsCut rest) :
    onePass htmlSpellings (run ++ Node.writeAllFlat .jsx nodes ++ rest) =
      run ++ Node.writeAllFlat .html nodes ++ onePass htmlSpellings rest := by
  cases nodes with
  | nil =>
    have hrun : KeywordFree htmlSpellings run := hruns run List.mem_cons_self
    rw [Node.writeAllFlat, Node.writeAllFlat, List.append_nil, onePass_free_append hrun hrest]
  | cons node more =>
    have hmore : ∀ n ∈ Node.walkAll more, n.OwnPartsRespellable := fun n hn =>
      h n (by simp [Node.walkAll, hn])
    by_cases htext : ∃ content, node = .text content
    · obtain ⟨content, rfl⟩ := htext
      have hlonger := onePass_writeAllFlat (run ++ content.toList) more hmore hruns rest hrest
      simpa [Node.writeAllFlat, Node.writeFlat] using hlonger
    · rw [not_exists] at htext
      have hnode := respells_writeFlat node (fun n hn => h n (by simp [Node.walkAll, hn])) htext
      have hsplit : textRuns run (node :: more) = run :: textRuns [] more := by
        cases node with
        | text content => exact absurd rfl (htext content)
        | element | comment => rfl
      -- the run ends in front of the node, and the next one starts behind it
      rw [hsplit, List.forall_mem_cons] at hruns
      have hothers := onePass_writeAllFlat [] more hmore hruns.2 rest hrest
      rw [List.nil_append, List.nil_append] at hothers
      rw [Node.writeAllFlat, Node.writeAllFlat, List.append_assoc, List.append_assoc,
        onePass_free_append hruns.1 (startsCut_writeFlat htext _), hnode, hothers]
      simp
end

/-- A text among lines of their own. -/
theorem respells_line {content : List Char} (h : KeywordFree htmlSpellings content) (depth : Nat) :
    Respells (indentation depth ++ content ++ ['\n']) (indentation depth ++ content ++ ['\n']) := by
  have hcontent := Respells.closed h (c := '\n') (by decide)
  simpa using (respells_indentation depth).append hcontent

mutual

/-- A node on lines of its own. -/
theorem respells_writeLines (depth : Nat) (node : Node)
    (h : ∀ n ∈ node.walk, n.OwnPartsRespellable)
    (htext : ∀ content, node = .text content → KeywordFree htmlSpellings content.toList) :
    Respells (node.writeLines .jsx depth) (node.writeLines .html depth) := by
  have hindent := respells_indentation depth
  have hnewline : Respells ['\n'] ['\n'] := .self (by decide)
  cases node with
  | text content => exact respells_line (htext content rfl) depth
  | comment content =>
    have hcomment := respells_comment (h (.comment content) (by simp [Node.walk]))
    exact (hindent.append hcomment).append hnewline
  | element tag attributes children =>
    obtain ⟨htag, ha, hruns⟩ := h (.element tag attributes children) (by simp [Node.walk])
    have hchildren : ∀ n ∈ Node.walkAll children, n.OwnPartsRespellable := fun n hn =>
      h n (by simp [Node.walk, hn])
    have hopen := respells_openTag htag ha
    have hclose := respells_closeTag htag
    rw [Node.writeLines, Node.writeLines]
    split
    · exact (hindent.append (respells_voidTag htag ha)).append hnewline
    · split
      · -- the children are on the line of the tags, where texts next to each other form runs
        have hflat := Respells.of_cut (onePass_writeAllFlat [] children hchildren hruns) hclose
          (startsCut_closeTag tag)
        simpa using ((hindent.append hopen).append hflat).append hnewline
      · -- the children have lines of their own, so each text stands by itself
        have hlines := respells_writeAllLines (depth + 1) children hchildren fun content hmem =>
          keywordFree_of_textRuns hruns hmem
        exact (((((hindent.append hopen).append hnewline).append hlines).append hindent).append
          hclose).append hnewline

theorem respells_writeAllLines (depth : Nat) (nodes : List Node)
    (h : ∀ n ∈ Node.walkAll nodes, n.OwnPartsRespellable)
    (htexts : ∀ content, .text content ∈ nodes → KeywordFree htmlSpellings content.toList) :
    Respells (Node.writeAllLines .jsx depth nodes) (Node.writeAllLines .html depth nodes) := by
  cases nodes with
  | nil => exact .nil
  | cons node more =>
    have hnode := respells_writeLines depth node (fun n hn => h n (by simp [Node.walkAll, hn]))
      fun content heq => htexts content (by simp [heq])
    have hmore := respells_writeAllLines depth more (fun n hn => h n (by simp [Node.walkAll, hn]))
      fun content hmem => htexts content (List.mem_cons_of_mem node hmem)
    exact hnode.append hmore

end

/-! ### The whole text -/

/-- A pass neither writes nor removes line feeds at the end. -/
theorem onePass_dropFinalNewlines (cs : List Char) :
    onePass htmlSpellings (Node.dropFinalNewlines cs) =
      Node.dropFinalNewlines (onePass htmlSpellings cs) := by
  induction cs using List.reverseRecOn with
  | nil => rfl
  | append_singleton cs c ih =>
    by_cases hc : c = '\n'
    · subst hc
      have hcuts : Cuts htmlSpellings '\n' := by decide
      have hlast : onePass htmlSpellings (cs ++ ['\n']) = onePass htmlSpellings cs ++ ['\n'] :=
        htmlSpellings_orderly.onePass_append_cons hcuts cs []
      rw [hlast, dropFinalNewlines_append_newline, dropFinalNewlines_append_newline, ih]
    · have hends : (cs ++ [c]).getLast? ≠ some '\n' := by simpa using hc
      have hspellings : ∀ r ∈ htmlSpellings, r.spelling.toList.getLast? ≠ some '\n' := by decide
      have hends' : (onePass htmlSpellings (cs ++ [c])).getLast? ≠ some '\n' := fun hlast =>
        hends (htmlSpellings_orderly.getLast?_onePass hspellings hlast)
      rw [dropFinalNewlines_eq_self hends, dropFinalNewlines_eq_self hends']

/-- Printing in the neutral dialect and respelling is printing in the HTML dialect. -/
theorem onePass_render {tree : Node} (h : tree.IsRespellable) :
    onePass htmlSpellings (tree.render .jsx).toList = (tree.render .html).toList := by
  have hroot : ∀ content, tree = .text content → KeywordFree htmlSpellings content.toList := by
    rintro content rfl
    exact keywordFree_of_textRuns h.1 List.mem_cons_self
  have hlines := respells_writeLines 0 tree h.2 hroot []
  rw [List.append_nil, onePass_nil, List.append_nil] at hlines
  rw [Node.render, Node.render, String.toList_ofList, String.toList_ofList,
    onePass_dropFinalNewlines, hlines]

/-- A body gives the same text as a tree and as its neutral markup, whichever dialect the markup is
put into. -/
theorem respell_render (tree : Node) (h : tree.IsRespellable) :
    Dialect.html.respell (tree.render .jsx) = tree.render .html ∧
      ∀ dialect, (Body.markup (tree.render .jsx)).render dialect =
        (Body.tree tree).render dialect := by
  have hhtml : Dialect.html.respell (tree.render .jsx) = tree.render .html := by
    rw [← String.toList_inj, toList_respell, onePass_render h]
  refine ⟨hhtml, fun dialect => ?_⟩
  cases dialect with
  | jsx => exact String.ofList_toList
  | html => exact hhtml

/-- A label with a comment, a stroke and a text that goes on behind an inline element. -/
theorem respell_render_label :
    let tree : Node := .element "label" [⟨.labelFor, some "q"⟩, ⟨.other "required", none⟩]
      [.comment "Name", .text "class", .text "Name = \x7b",
        .element "b" [⟨.classList, some "/*"⟩] [],
        .element "path" [⟨.strokeWidth, some "2"⟩, ⟨.other "d", some "M5 13"⟩] []]
    tree.IsRespellable ∧ Dialect.html.respell (tree.render .jsx) = tree.render .html ∧
      ∀ dialect, (Body.markup (tree.render .jsx)).render dialect =
        (Body.tree tree).render dialect := by
  intro tree
  have htree : tree.IsRespellable := by decide
  exact ⟨htree, respell_render tree htree⟩

end Scaffold
