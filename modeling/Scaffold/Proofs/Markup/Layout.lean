import Mathlib.Data.List.Infix
import Scaffold.Markup.Printer

/-!
# The layout of a printed tree

Which nodes are texts, and so run together when they are next to each other on a line, what stands
behind the attributes of an element, and where the text of a tree ends.
-/

namespace Scaffold

/-! ### Texts -/

def Node.isText : Node → Bool
  | .text _ => true
  | _ => false

/-- No two texts are next to each other. -/
def textsApart : List Node → Bool
  | first :: second :: rest => !(first.isText && second.isText) && textsApart (second :: rest)
  | _ => true

theorem textsApart_eq (n : Node) (rest : List Node) :
    textsApart (n :: rest) = (!(n.isText && rest.head?.any Node.isText) && textsApart rest) := by
  cases rest with
  | nil => simp [textsApart]
  | cons => rfl

theorem textsApart_cons {n : Node} {rest : List Node} (h : textsApart (n :: rest) = true) :
    (n.isText = true → ∀ next ∈ rest.head?, next.isText = false) ∧ textsApart rest = true := by
  cases rest with
  | nil => simp [textsApart]
  | cons next rest =>
    rw [textsApart, Bool.and_eq_true] at h
    refine ⟨fun hn => ?_, h.2⟩
    simpa [hn] using h.1

/-! ### Elements -/

/-- The children of an element and its close tag, on the line of the open tag or below it. -/
def Node.inside (d : Dialect) (depth : Nat) (tag : String) (children : List Node) : List Char :=
  if Node.allInline children then Node.writeAllFlat d children ++ closeTag tag
  else '\n' :: (Node.writeAllLines d (depth + 1) children ++ indentation depth ++ closeTag tag)

/-- An element behind its attributes, up to its last line end. -/
def Node.behindAttributes (d : Dialect) (depth : Nat) (tag : String) (children : List Node) :
    List Char :=
  if isVoidTag tag then [' ', '/', '>', '\n']
  else '>' :: (Node.inside d depth tag children ++ ['\n'])

theorem Node.writeLines_element (d : Dialect) (depth : Nat) (tag : String) (as : List Attribute)
    (children : List Node) :
    (Node.element tag as children).writeLines d depth =
      indentation depth ++ '<' :: (tag.toList ++ as.flatMap (attributeText d) ++
        Node.behindAttributes d depth tag children) := by
  rw [Node.writeLines, Node.behindAttributes, Node.inside]
  split
  · simp [voidTag]
  · split <;> simp [openTag]

theorem Node.exists_behindAttributes (d : Dialect) (depth : Nat) (tag : String)
    (children : List Node) :
    ∃ front, Node.behindAttributes d depth tag children = front ++ ['>', '\n'] := by
  rw [Node.behindAttributes, Node.inside]
  split
  · exact ⟨[' ', '/'], rfl⟩
  · split
    · exact ⟨'>' :: (Node.writeAllFlat d children ++ '<' :: '/' :: tag.toList), by simp [closeTag]⟩
    · exact ⟨'>' :: '\n' :: (Node.writeAllLines d (depth + 1) children ++
        (indentation depth ++ '<' :: '/' :: tag.toList)), by simp [closeTag]⟩

/-! ### Line ends -/

theorem dropFinalNewlines_append_newline (cs : List Char) :
    Node.dropFinalNewlines (cs ++ ['\n']) = Node.dropFinalNewlines cs := by
  simp [Node.dropFinalNewlines]

theorem dropFinalNewlines_eq_self {cs : List Char} (h : cs.getLast? ≠ some '\n') :
    Node.dropFinalNewlines cs = cs := by
  rcases List.eq_nil_or_concat' cs with rfl | ⟨front, c, rfl⟩
  · rfl
  · have hc : (c == '\n') = false := by simpa using h
    simp [Node.dropFinalNewlines, hc]

theorem Node.exists_line_end_element (d : Dialect) (tag : String) (as : List Attribute)
    (children : List Node) :
    ∃ front, (Node.element tag as children).writeLines d 0 = front ++ ['>', '\n'] := by
  obtain ⟨front, hfront⟩ := Node.exists_behindAttributes d 0 tag children
  exact ⟨'<' :: (tag.toList ++ as.flatMap (attributeText d) ++ front),
    by simp [Node.writeLines_element, hfront, indentation]⟩

/-- Only the last line end is left out of the text of a tree. -/
theorem Node.writeLines_eq_append_newline {d : Dialect} {t : Node} {front : List Char} {c : Char}
    (hfront : t.writeLines d 0 = front ++ [c, '\n']) (hc : c ≠ '\n') :
    t.writeLines d 0 = (t.render d).toList ++ ['\n'] := by
  have hlines : t.writeLines d 0 = front ++ [c] ++ ['\n'] := by simp [hfront]
  rw [Node.render, String.toList_ofList, hlines, dropFinalNewlines_append_newline,
    dropFinalNewlines_eq_self (by simpa using hc)]

theorem Node.render_element_append_newline (d : Dialect) (tag : String) (as : List Attribute)
    (children : List Node) :
    ((Node.element tag as children).render d).toList ++ ['\n'] =
      '<' :: (tag.toList ++ as.flatMap (attributeText d)) ++
        Node.behindAttributes d 0 tag children := by
  obtain ⟨front, hfront⟩ := Node.exists_line_end_element d tag as children
  rw [← Node.writeLines_eq_append_newline hfront (by decide), Node.writeLines_element]
  rfl

end Scaffold
