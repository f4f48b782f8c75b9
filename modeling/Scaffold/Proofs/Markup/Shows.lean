import Scaffold.Proofs.Markup.Layout
import Scaffold.Proofs.Text.Occurrence

/-!
# Shown texts

A tree shows a text when one of its text nodes holds it and no void element hides that node. What is
shown is printed as it is, on a line of its own or inside one, so it stands in the text of the tree.
-/

namespace Scaffold

/-- The text is part of a text node of the tree that is printed. -/
inductive Node.Shows (shown : List Char) : Node → Prop
  | text {content : String} (hcontent : shown <:+: content.toList) : Shows shown (.text content)
  | element {tag : String} {attributes : List Attribute} {children : List Node} {node : Node}
    (htag : isVoidTag tag = false) (hmem : node ∈ children) (hnode : Shows shown node) :
    Shows shown (.element tag attributes children)

namespace Node

variable {shown : List Char} {d : Dialect} {node : Node}

/-! ### Printing -/

theorem writeFlat_isInfix {nodes : List Node} (h : node ∈ nodes) :
    node.writeFlat d <:+: writeAllFlat d nodes := by
  induction nodes with
  | nil => cases h
  | cons first rest ih =>
    rw [writeAllFlat]
    rcases List.mem_cons.mp h with rfl | hrest
    · exact (List.prefix_append _ _).isInfix
    · exact (ih hrest).trans (List.suffix_append _ _).isInfix

theorem writeLines_isInfix {nodes : List Node} (h : node ∈ nodes) (depth : Nat) :
    node.writeLines d depth <:+: writeAllLines d depth nodes := by
  induction nodes with
  | nil => cases h
  | cons first rest ih =>
    rw [writeAllLines]
    rcases List.mem_cons.mp h with rfl | hrest
    · exact (List.prefix_append _ _).isInfix
    · exact (ih hrest).trans (List.suffix_append _ _).isInfix

theorem Shows.isInfix_writeFlat (h : node.Shows shown) : shown <:+: node.writeFlat d := by
  induction h with
  | text hcontent =>
    rw [writeFlat]
    exact hcontent
  | @element tag attributes children node htag hmem hnode ih =>
    rw [writeFlat, htag]
    exact (ih.trans (writeFlat_isInfix hmem)).trans
      (List.infix_append (openTag d tag attributes) _ (closeTag tag))

/-- What an element shows stands between its tags, on their line or on lines of its own. -/
theorem isInfix_inside {tag : String} {children : List Node} {depth : Nat} (hmem : node ∈ children)
    (hflat : shown <:+: node.writeFlat d) (hlines : shown <:+: node.writeLines d (depth + 1)) :
    shown <:+: inside d depth tag children := by
  rw [inside]
  split
  · exact (hflat.trans (writeFlat_isInfix hmem)).trans (List.prefix_append _ _).isInfix
  · rw [List.append_assoc]
    refine (hlines.trans (writeLines_isInfix hmem (depth + 1))).trans ?_
    exact (List.prefix_append _ _).isInfix.trans (List.suffix_cons '\n' _).isInfix

theorem Shows.isInfix_writeLines (h : node.Shows shown) (depth : Nat) :
    shown <:+: node.writeLines d depth := by
  induction h generalizing depth with
  | text hcontent =>
    rw [writeLines]
    exact hcontent.trans (List.infix_append (indentation depth) _ ['\n'])
  | @element tag attributes children node htag hmem hnode ih =>
    have hinside : shown <:+: inside d depth tag children :=
      isInfix_inside hmem hnode.isInfix_writeFlat (ih (depth + 1))
    have hbehind : shown <:+: behindAttributes d depth tag children := by
      rw [behindAttributes, htag]
      exact (hinside.trans (List.prefix_append _ ['\n']).isInfix).trans
        (List.suffix_cons '>' _).isInfix
    rw [writeLines_element]
    have hend := (List.suffix_append _ (behindAttributes d depth tag children)).trans
      (List.suffix_cons '<' (tag.toList ++ attributes.flatMap (attributeText d) ++ _))
    exact hbehind.trans (hend.trans (List.suffix_append (indentation depth) _)).isInfix

/-! ### The end of the text -/

/-- Line ends at the end of a text are no part of what has none. -/
theorem isInfix_dropFinalNewlines {cs : List Char} (hshown : '\n' ∉ shown) (h : shown <:+: cs) :
    shown <:+: dropFinalNewlines cs := by
  rcases eq_or_ne shown [] with rfl | hne
  · exact List.nil_infix
  induction cs using List.reverseRecOn with
  | nil => exact h
  | append_singleton front c ih =>
    by_cases hc : c = '\n'
    · subst hc
      rw [dropFinalNewlines_append_newline]
      rcases Text.infix_append_cons hne hshown h with hfront | hnil
      · exact ih hfront
      · exact absurd (List.infix_nil.mp hnil) hne
    · rw [dropFinalNewlines_eq_self (by simpa using hc)]
      exact h

theorem Shows.isInfix_render (h : node.Shows shown) (hshown : '\n' ∉ shown) :
    shown <:+: (node.render d).toList := by
  rw [render, String.toList_ofList]
  exact isInfix_dropFinalNewlines hshown (h.isInfix_writeLines 0)

end Node

end Scaffold
