import Scaffold.Proofs.Markup.Layout

/-!
# Printed trees as tokens

A printed tree is the sequence of its tokens with layout between them, and nothing else. The text of
a token is told here sign by sign (`Token.write`), apart from the printer. Layout is a line feed and
two blanks for each level, before a token that starts a line; where tokens start lines is settled by
the tree alone (`Node.place`), so it is the same in both dialects. The main statement,
`Node.render_tokens`, also tells that a comment is never written inside a line: whatever would be
written there, the text is the same (`Node.renderWith`).
-/

namespace Scaffold

/-! ### Tokens -/

/-- What layout never takes apart. -/
inductive Token where
  | opening (tag : String) (attributes : List Attribute)
  | void (tag : String) (attributes : List Attribute)
  | text (content : String)
  | comment (content : String)
  | closing (tag : String)

/-- An attribute with the blank before it: its keyword alone, or its value in quotes behind it. -/
def Attribute.write (d : Dialect) (a : Attribute) : List Char :=
  match a.value with
  | none => " ".toList ++ (a.name.keyword d).toList
  | some value =>
    " ".toList ++ (a.name.keyword d).toList ++ "=\"".toList ++ value.toList ++ "\"".toList

/-- What opens a comment and what closes it. -/
def Dialect.commentSigns : Dialect → String × String
  | .jsx => ("\x7b/* ", " */\x7d")
  | .html => ("<!-- ", " -->")

/-- The text of a token. Only keywords and comments differ between the dialects. -/
def Token.write (d : Dialect) : Token → List Char
  | .opening tag attributes =>
    "<".toList ++ tag.toList ++ attributes.flatMap (·.write d) ++ ">".toList
  | .void tag attributes =>
    "<".toList ++ tag.toList ++ attributes.flatMap (·.write d) ++ " />".toList
  | .text content => content.toList
  | .comment content => d.commentSigns.1.toList ++ content.toList ++ d.commentSigns.2.toList
  | .closing tag => "</".toList ++ tag.toList ++ ">".toList

/-! The printer writes these texts. -/

section Texts

variable {d : Dialect}

theorem Attribute.write_eq (a : Attribute) : a.write d = attributeText d a := by
  obtain ⟨name, value⟩ := a
  cases value <;> simp [write, attributeText]

theorem Attribute.flatMap_write (attributes : List Attribute) :
    attributes.flatMap (·.write d) = attributes.flatMap (attributeText d) :=
  List.flatMap_congr fun a _ => a.write_eq

@[simp] theorem Token.write_opening (tag : String) (attributes : List Attribute) :
    (Token.opening tag attributes).write d = openTag d tag attributes := by
  simp [write, openTag, Attribute.flatMap_write]

@[simp] theorem Token.write_void (tag : String) (attributes : List Attribute) :
    (Token.void tag attributes).write d = voidTag d tag attributes := by
  simp [write, voidTag, Attribute.flatMap_write]

@[simp] theorem Token.write_text (content : String) :
    (Token.text content).write d = content.toList := rfl

@[simp] theorem Token.write_comment (content : String) :
    (Token.comment content).write d = (commentText d content).toList := by
  cases d <;> simp [write, Dialect.commentSigns, commentText]

@[simp] theorem Token.write_closing (tag : String) :
    (Token.closing tag).write d = closeTag tag := by
  simp [write, closeTag]

end Texts

namespace Node

mutual

/-- The tokens of a tree in document order. A void element hides its children. -/
def tokens : Node → List Token
  | .element tag attributes children =>
    if isVoidTag tag then [.void tag attributes]
    else .opening tag attributes :: (tokensOfAll children ++ [.closing tag])
  | .text content => [.text content]
  | .comment content => [.comment content]

def tokensOfAll : List Node → List Token
  | [] => []
  | node :: rest => node.tokens ++ tokensOfAll rest

end

/-! ### Block form -/

/-- What cannot stay on the line of its element: a comment, an element that is no inline one, and an
element in which there is something of the kind. -/
inductive BreaksLine : List Node → Prop
  | comment {children : List Node} {content : String} (hmem : .comment content ∈ children) :
      BreaksLine children
  | block {children inner : List Node} {tag : String} {attributes : List Attribute}
      (hmem : .element tag attributes inner ∈ children) (htag : tag ∉ inlineTags) :
      BreaksLine children
  | inside {children inner : List Node} {tag : String} {attributes : List Attribute}
      (hmem : .element tag attributes inner ∈ children) (hinner : BreaksLine inner) :
      BreaksLine children

theorem allInline_eq_false_of_mem {node : Node} {nodes : List Node} (hmem : node ∈ nodes)
    (h : node.isInline = false) : allInline nodes = false := by
  induction nodes with
  | nil => cases hmem
  | cons first rest ih =>
    rw [allInline, Bool.and_eq_false_iff]
    rcases List.mem_cons.mp hmem with rfl | hrest
    · exact .inl h
    · exact .inr (ih hrest)

theorem BreaksLine.allInline_eq_false {children : List Node} (h : BreaksLine children) :
    allInline children = false := by
  induction h with
  | comment hmem => exact allInline_eq_false_of_mem hmem rfl
  | block hmem htag =>
    refine allInline_eq_false_of_mem hmem ?_
    rw [isInline, Bool.and_eq_false_iff]
    exact .inl (by simpa using htag)
  | inside hmem _ ih =>
    refine allInline_eq_false_of_mem hmem ?_
    rw [isInline, ih, Bool.and_false]

theorem BreaksLine.mono {children more : List Node} (h : BreaksLine children)
    (hsub : children ⊆ more) : BreaksLine more := by
  cases h with
  | comment hmem => exact .comment (hsub hmem)
  | block hmem htag => exact .block (hsub hmem) htag
  | inside hmem hinner => exact .inside (hsub hmem) hinner

mutual

theorem breaksLine_of_isInline : ∀ {node : Node}, node.isInline = false → BreaksLine [node]
  | .element tag _ children, h => by
    rw [isInline, Bool.and_eq_false_iff] at h
    rcases h with htag | hchildren
    · exact .block (.head _) (by simpa using htag)
    · exact .inside (.head _) (breaksLine_of_allInline hchildren)
  | .text _, h => by cases h
  | .comment _, _ => .comment (.head _)

theorem breaksLine_of_allInline : ∀ {nodes : List Node}, allInline nodes = false → BreaksLine nodes
  | [], h => by cases h
  | node :: rest, h => by
    rw [allInline, Bool.and_eq_false_iff] at h
    rcases h with hnode | hrest
    · exact (breaksLine_of_isInline hnode).mono (by simp)
    · exact (breaksLine_of_allInline hrest).mono (List.subset_cons_self _ _)

end

theorem breaksLine_iff {children : List Node} :
    BreaksLine children ↔ allInline children = false :=
  ⟨BreaksLine.allInline_eq_false, breaksLine_of_allInline⟩

instance (children : List Node) : Decidable (BreaksLine children) :=
  decidable_of_iff _ breaksLine_iff.symm

/-- The element puts its children on lines of their own. -/
def IsBlock (tag : String) (children : List Node) : Prop :=
  isVoidTag tag = false ∧ BreaksLine children

instance (tag : String) (children : List Node) : Decidable (IsBlock tag children) :=
  inferInstanceAs (Decidable (_ ∧ _))

end Node

/-! ### Layout -/

/-- A token with the level of the line it starts, or in the line of the token before it. -/
structure Placed where
  line : Option Nat
  token : Token

/-- A token that starts a line stands behind a line feed and two blanks for each level. -/
def Placed.write (d : Dialect) (p : Placed) : List Char :=
  match p.line with
  | some depth => "\n".toList ++ (List.replicate depth "  ".toList).flatten ++ p.token.write d
  | none => p.token.write d

theorem indentation_eq (depth : Nat) :
    indentation depth = (List.replicate depth "  ".toList).flatten := by
  have hblanks : "  ".toList = List.replicate 2 ' ' := rfl
  rw [indentation, hblanks, List.flatten_replicate_replicate, Nat.mul_comm]

@[simp] theorem Placed.write_some (d : Dialect) (depth : Nat) (token : Token) :
    Placed.write d ⟨some depth, token⟩ = '\n' :: (indentation depth ++ token.write d) := by
  simp [write, indentation_eq]

@[simp] theorem Placed.write_none (d : Dialect) (token : Token) :
    Placed.write d ⟨none, token⟩ = token.write d := rfl

namespace Node

mutual

/-- The tokens of a tree with the lines they start. `line` is that of the first token; the children
of an element in block form start lines one level further in, and its close tag starts one too. -/
def place (line : Option Nat) : Node → List Placed
  | .element tag attributes children =>
    if isVoidTag tag then [⟨line, .void tag attributes⟩]
    else if IsBlock tag children then
      ⟨line, .opening tag attributes⟩ ::
        (placeAll (line.map (· + 1)) children ++ [⟨line, .closing tag⟩])
    else ⟨line, .opening tag attributes⟩ :: (placeAll none children ++ [⟨none, .closing tag⟩])
  | .text content => [⟨line, .text content⟩]
  | .comment content => [⟨line, .comment content⟩]

def placeAll (line : Option Nat) : List Node → List Placed
  | [] => []
  | node :: rest => node.place line ++ placeAll line rest

end

mutual

theorem map_token_place : ∀ (line : Option Nat) (node : Node),
    (node.place line).map (·.token) = node.tokens
  | line, .element tag attributes children => by
    rw [place, tokens]
    split
    · rfl
    · split <;> simp [map_token_placeAll _ children]
  | _, .text _ => by rw [place, tokens, List.map_singleton]
  | _, .comment _ => by rw [place, tokens, List.map_singleton]

theorem map_token_placeAll : ∀ (line : Option Nat) (nodes : List Node),
    (placeAll line nodes).map (·.token) = tokensOfAll nodes
  | _, [] => by rw [placeAll, tokensOfAll, List.map_nil]
  | line, node :: rest => by
    rw [placeAll, tokensOfAll, List.map_append, map_token_place, map_token_placeAll]

end

variable {d : Dialect}

mutual

/-- Where no line starts, the tokens are what is written inside a line. -/
theorem write_place_none : ∀ node : Node,
    (node.place none).flatMap (Placed.write d) = node.writeFlat d
  | .element tag attributes children => by
    rw [place, writeFlat]
    split
    · simp
    · split <;> simp [write_placeAll_none children]
  | .text _ => by simp [place, writeFlat]
  | .comment _ => by simp [place, writeFlat]

theorem write_placeAll_none : ∀ nodes : List Node,
    (placeAll none nodes).flatMap (Placed.write d) = writeAllFlat d nodes
  | [] => by rw [placeAll, writeAllFlat, List.flatMap_nil]
  | node :: rest => by
    rw [placeAll, writeAllFlat, List.flatMap_append, write_place_none, write_placeAll_none]

end

theorem isBlock_iff {tag : String} {children : List Node} (htag : ¬isVoidTag tag = true) :
    IsBlock tag children ↔ ¬allInline children = true := by
  rw [Bool.not_eq_true] at htag ⊢
  rw [IsBlock, breaksLine_iff, htag]
  exact and_iff_right rfl

mutual

/-- A node is written with the line feed behind it that its tokens have before them. -/
theorem write_place_some : ∀ (depth : Nat) (node : Node),
    (node.place (some depth)).flatMap (Placed.write d) ++ ['\n'] = '\n' :: node.writeLines d depth
  | depth, .element tag attributes children => by
    rw [place, writeLines]
    split
    · simp
    · next htag =>
      by_cases hinline : allInline children = true
      · rw [if_neg (by simpa [isBlock_iff htag] using hinline), if_pos hinline]
        simp [write_placeAll_none]
      · rw [if_pos ((isBlock_iff htag).mpr hinline), if_neg hinline]
        -- the line feed behind the last child is the one before the close tag
        have hchildren := write_placeAll_some (depth + 1) children
        simp only [Option.map_some, List.flatMap_cons, List.flatMap_append, List.flatMap_nil,
          Placed.write_some, Token.write_opening, Token.write_closing, List.append_nil]
        calc '\n' :: (indentation depth ++ openTag d tag attributes) ++
              ((placeAll (some (depth + 1)) children).flatMap (Placed.write d) ++
                '\n' :: (indentation depth ++ closeTag tag)) ++ ['\n']
          _ = '\n' :: (indentation depth ++ openTag d tag attributes) ++
              (((placeAll (some (depth + 1)) children).flatMap (Placed.write d) ++ ['\n']) ++
                (indentation depth ++ closeTag tag)) ++ ['\n'] := by simp
          _ = _ := by simp [hchildren]
  | _, .text _ => by simp [place, writeLines]
  | _, .comment _ => by simp [place, writeLines]

theorem write_placeAll_some : ∀ (depth : Nat) (nodes : List Node),
    (placeAll (some depth) nodes).flatMap (Placed.write d) ++ ['\n'] =
      '\n' :: writeAllLines d depth nodes
  | _, [] => by rw [placeAll, writeAllLines, List.flatMap_nil, List.nil_append]
  | depth, node :: rest => by
    rw [placeAll, writeAllLines, List.flatMap_append, List.append_assoc, write_placeAll_some,
      List.append_cons, write_place_some, List.cons_append]

end

/-- A node that starts a line is written with a line feed first. -/
theorem exists_write_place (depth : Nat) (node : Node) :
    ∃ front, (node.place (some depth)).flatMap (Placed.write d) = '\n' :: front := by
  have hfirst : ∃ token rest, node.place (some depth) = ⟨some depth, token⟩ :: rest := by
    fun_cases place (some depth) node <;> exact ⟨_, _, rfl⟩
  obtain ⟨token, rest, hplace⟩ := hfirst
  rw [hplace, List.flatMap_cons, Placed.write_some]
  exact ⟨_, rfl⟩

/-! ### Comments in a line -/

mutual

/-- The writer of a line with `inLine` for what it writes for a comment. -/
def writeFlatWith (inLine : String → List Char) (d : Dialect) : Node → List Char
  | .element tag attributes children =>
    if isVoidTag tag then voidTag d tag attributes
    else openTag d tag attributes ++ writeAllFlatWith inLine d children ++ closeTag tag
  | .text content => content.toList
  | .comment content => inLine content

def writeAllFlatWith (inLine : String → List Char) (d : Dialect) : List Node → List Char
  | [] => []
  | node :: rest => node.writeFlatWith inLine d ++ writeAllFlatWith inLine d rest

end

mutual

/-- The writer of lines over that writer of a line. -/
def writeLinesWith (inLine : String → List Char) (d : Dialect) (depth : Nat) : Node → List Char
  | .element tag attributes children =>
    if isVoidTag tag then indentation depth ++ voidTag d tag attributes ++ ['\n']
    else if allInline children then
      indentation depth ++ openTag d tag attributes ++ writeAllFlatWith inLine d children ++
        closeTag tag ++ ['\n']
    else
      indentation depth ++ openTag d tag attributes ++ ['\n'] ++
        writeAllLinesWith inLine d (depth + 1) children ++
        indentation depth ++ closeTag tag ++ ['\n']
  | .text content => indentation depth ++ content.toList ++ ['\n']
  | .comment content => indentation depth ++ (commentText d content).toList ++ ['\n']

def writeAllLinesWith (inLine : String → List Char) (d : Dialect) (depth : Nat) :
    List Node → List Char
  | [] => []
  | node :: rest => node.writeLinesWith inLine d depth ++ writeAllLinesWith inLine d depth rest

end

def renderWith (inLine : String → List Char) (d : Dialect) (node : Node) : String :=
  String.ofList (dropFinalNewlines (node.writeLinesWith inLine d 0))

variable (inLine : String → List Char)

mutual

theorem writeFlatWith_eq : ∀ {node : Node}, node.isInline = true →
    node.writeFlatWith inLine d = node.writeFlat d
  | .element tag attributes children, h => by
    rw [isInline, Bool.and_eq_true] at h
    rw [writeFlatWith, writeFlat, writeAllFlatWith_eq h.2]
  | .text _, _ => by rw [writeFlatWith, writeFlat]
  | .comment _, h => by cases h

theorem writeAllFlatWith_eq : ∀ {nodes : List Node}, allInline nodes = true →
    writeAllFlatWith inLine d nodes = writeAllFlat d nodes
  | [], _ => by rw [writeAllFlatWith, writeAllFlat]
  | node :: rest, h => by
    rw [allInline, Bool.and_eq_true] at h
    rw [writeAllFlatWith, writeAllFlat, writeFlatWith_eq h.1, writeAllFlatWith_eq h.2]

end

mutual

theorem writeLinesWith_eq : ∀ (depth : Nat) (node : Node),
    node.writeLinesWith inLine d depth = node.writeLines d depth
  | depth, .element tag attributes children => by
    rw [writeLinesWith, writeLines, writeAllLinesWith_eq]
    split
    · rfl
    · split
      · next hinline => rw [writeAllFlatWith_eq inLine hinline]
      · rfl
  | _, .text _ => by rw [writeLinesWith, writeLines]
  | _, .comment _ => by rw [writeLinesWith, writeLines]

theorem writeAllLinesWith_eq : ∀ (depth : Nat) (nodes : List Node),
    writeAllLinesWith inLine d depth nodes = writeAllLines d depth nodes
  | _, [] => by rw [writeAllLinesWith, writeAllLines]
  | depth, node :: rest => by
    rw [writeAllLinesWith, writeAllLines, writeLinesWith_eq, writeAllLinesWith_eq]

end

theorem renderWith_eq (node : Node) : node.renderWith inLine d = node.render d := by
  rw [renderWith, writeLinesWith_eq, render]

/-! ### The text of a tree -/

theorem exists_dropFinalNewlines (cs : List Char) :
    (dropFinalNewlines cs).getLast? ≠ some '\n' ∧
      ∃ count, cs = dropFinalNewlines cs ++ List.replicate count '\n' := by
  -- from the back, where the line feeds are taken off
  induction cs using List.reverseRecOn with
  | nil => exact ⟨by simp [dropFinalNewlines], 0, rfl⟩
  | append_singleton front c ih =>
    by_cases hc : c = '\n'
    · subst hc
      rw [dropFinalNewlines_append_newline]
      obtain ⟨hlast, count, hfront⟩ := ih
      refine ⟨hlast, count + 1, ?_⟩
      rw [List.replicate_succ', ← List.append_assoc, ← hfront]
    · have hlast : (front ++ [c]).getLast? ≠ some '\n' := by simpa using hc
      rw [dropFinalNewlines_eq_self hlast]
      exact ⟨hlast, 0, by simp⟩

/-- The text of a tree, with a line feed before it and the line feeds that were taken off behind it,
is the tokens of the tree in document order, each directly behind the one before it or, if it starts
a line, behind a line feed and two blanks for each level. A comment is never written inside a
line. -/
theorem render_tokens (node : Node) :
    (node.place (some 0)).map (·.token) = node.tokens ∧
    (∀ d, (node.render d).toList.getLast? ≠ some '\n' ∧
      ∃ count, '\n' :: ((node.render d).toList ++ List.replicate count '\n') =
        (node.place (some 0)).flatMap (Placed.write d)) ∧
    ∀ inLine d, node.renderWith inLine d = node.render d := by
  refine ⟨map_token_place (some 0) node, fun d => ?_, fun inLine d => renderWith_eq inLine node⟩
  -- the tokens begin with a line feed where the lines end with one
  obtain ⟨front, hfront⟩ := exists_write_place (d := d) 0 node
  have hlines : node.writeLines d 0 = front ++ ['\n'] := by
    have hplaced := write_place_some (d := d) 0 node
    rw [hfront, List.cons_append] at hplaced
    exact (List.cons.inj hplaced).2.symm
  obtain ⟨hlast, count, hcount⟩ := exists_dropFinalNewlines front
  rw [render, String.toList_ofList, hlines, dropFinalNewlines_append_newline, hfront]
  exact ⟨hlast, count, by rw [← hcount]⟩

end Node

end Scaffold
