import Scaffold.Template.Reader
import Scaffold.Proofs.Assembly.Rendering
import Scaffold.Proofs.Text.Occurrence

/-!
# Templates and their texts

A template has a text, in which each piece that is no text stands as a tag. If the tags are plain,
the text is read back as the template (`Template.readsAs_source`), and rendering the template is
filling in the text: each tag is replaced by its value in one pass, and nothing else is looked at or
changed (`exists_fillFrom_source`).
-/

namespace Scaffold

open Text

/-! ### The text of a template -/

/-- An argument as it stands in a tag. -/
def Argument.source : Argument → List Char
  | .path p => p.written.toList
  | .literal json => json.inserted

/-- What stands between the braces of a tag. -/
def Piece.inside : Piece → List Char
  | .text _ => []
  | .value p => p.written.toList
  | .call helper arguments => helper.toList ++ arguments.flatMap fun a => ' ' :: a.source

/-- The tag of a piece. -/
def Piece.tag (piece : Piece) : List Char :=
  '\x7b' :: '\x7b' :: (piece.inside ++ ['\x7d', '\x7d'])

/-- A piece as it stands in the text of a template. -/
def Piece.source : Piece → List Char
  | .text content => content.toList
  | piece => piece.tag

/-- Characters of the simplest tags: paths, with blanks between them. -/
def isInsideChar (c : Char) : Bool := Template.isPathChar c || c == ' '

/-- No tag starts in the text, not even at its last character. -/
def opensNoTag : List Char → Bool
  | [] => true
  | c :: rest => (c != '\x7b' || rest.head?.any (· != '\x7b')) && opensNoTag rest

theorem startsNowhereIn_of_opensNoTag {cs : List Char} (h : opensNoTag cs = true) :
    StartsNowhereIn ['\x7b', '\x7b'] cs := by
  induction cs with
  | nil =>
    intro tail htail hne
    exact absurd (by simpa using htail) hne
  | cons c rest ih =>
    rw [opensNoTag, Bool.and_eq_true] at h
    intro tail htail hne
    rw [List.tails_cons, List.mem_cons] at htail
    rcases htail with rfl | htail
    · rcases rest with - | ⟨d, rest⟩
      · simp_all
      · have hboth : c = '\x7b' → d ≠ '\x7b' := by
          rintro rfl
          simpa using h.1
        constructor
        · simpa using fun hc hd => absurd hd (hboth hc)
        · simpa using fun hc hd => absurd hd.symm (hboth hc.symm)
    · exact ih h.2 tail htail hne

theorem opensNoTag_append {cs rest : List Char} (h : opensNoTag cs = true)
    (hrest : opensNoTag rest = true) : opensNoTag (cs ++ rest) = true := by
  induction cs with
  | nil => exact hrest
  | cons c cs ih =>
    rw [opensNoTag, Bool.and_eq_true] at h
    rw [List.cons_append, opensNoTag, Bool.and_eq_true]
    refine ⟨?_, ih h.2⟩
    cases cs with
    | nil => simp_all
    | cons d cs => exact h.1

@[inherit_doc opensNoTag]
def OpensNoTag (s : String) : Prop := opensNoTag s.toList = true

namespace OpensNoTag

theorem lit {cs : List Char} (h : opensNoTag cs = true) : OpensNoTag (String.ofList cs) := by
  rwa [OpensNoTag, String.toList_ofList]

theorem append {s t : String} (hs : OpensNoTag s) (ht : OpensNoTag t) : OpensNoTag (s ++ t) := by
  rw [OpensNoTag, String.toList_append]
  exact opensNoTag_append hs ht

end OpensNoTag

/-- The piece is read back from its source, whatever stands around it. -/
def Piece.IsPlain : Piece → Prop
  | .text content => OpensNoTag content
  | piece => piece.inside.all isInsideChar = true ∧ Template.readPiece piece.inside = some piece

namespace Template

def source (template : Template) : List Char := template.flatMap Piece.source

theorem ne_of_all_isInsideChar {cs : List Char} (h : cs.all isInsideChar = true) {c d : Char}
    (hc : c ∈ cs) (hd : isInsideChar d = false) : c ≠ d := by
  rintro rfl
  have hplain := List.all_eq_true.mp h c hc
  rw [hd] at hplain
  cases hplain

/-! ### Reading a tag -/

theorem readArguments_cons {n : Nat} {c : Char} {cs rest : List Char}
    {argument : Argument} {arguments : List Argument} (hc : isTagBlank c = false)
    (hargument : readArgument (c :: cs) = some (argument, rest))
    (harguments : readArguments n rest = some arguments) :
    readArguments (n + 1) (' ' :: c :: cs) = some (argument :: arguments) := by
  have hblank : isTagBlank ' ' = true := rfl
  rw [readArguments, List.dropWhile_cons_of_pos hblank, List.dropWhile_cons_of_neg (by simp [hc])]
  simp [hargument, harguments]

theorem readPiece_call {cs head rest : List Char} {arguments : List Argument}
    (hsplit : splitPath false (cs.dropWhile isTagBlank) = (head, rest))
    (hhead : (!head.isEmpty && head.head? != some '/') = true)
    (harguments : readArguments (rest.length + 1) rest = some arguments)
    (hsome : arguments ≠ []) : readPiece cs = some (.call (String.ofList head) arguments) := by
  rw [readPiece, hsplit]
  unfold guard
  dsimp only
  rw [if_pos hhead]
  simp [harguments, hsome]

theorem splitTag_append {inside : List Char} (hplain : inside.all isInsideChar = true)
    (rest : List Char) :
    splitTag ['\x7d', '\x7d'] none (inside ++ '\x7d' :: '\x7d' :: rest) = some (inside, rest) := by
  induction inside with
  | nil => simp [splitTag]
  | cons c inside ih =>
    have hbrace : c ≠ '\x7d' := ne_of_all_isInsideChar hplain List.mem_cons_self rfl
    have hdouble : c ≠ '"' := ne_of_all_isInsideChar hplain List.mem_cons_self rfl
    have hsingle : c ≠ '\'' := ne_of_all_isInsideChar hplain List.mem_cons_self rfl
    have hrest : inside.all isInsideChar = true := by
      rw [List.all_cons, Bool.and_eq_true] at hplain
      exact hplain.2
    rw [List.cons_append, splitTag]
    simp [hdouble, hsingle, Ne.symm hbrace, ih hrest]

theorem readTag_plain {inside : List Char} {piece : Piece} (hplain : inside.all isInsideChar = true)
    (hread : readPiece inside = some piece) :
    readTag inside = some (.tag false (some piece) false) := by
  have htilde : inside.getLast? ≠ some '~' := by
    intro hlast
    have hne : '~' ≠ '~' := ne_of_all_isInsideChar hplain (List.mem_of_getLast? hlast) rfl
    exact hne rfl
  rcases inside with - | ⟨c, inside⟩
  · have hnil : readPiece [] = none := rfl
    rw [hnil] at hread
    cases hread
  have hopen : c ≠ '~' := ne_of_all_isInsideChar hplain List.mem_cons_self rfl
  have hraw : c ≠ '&' := ne_of_all_isInsideChar hplain List.mem_cons_self rfl
  unfold readTag
  split
  next before cs heq =>
  split at heq
  · next hcons => exact absurd (List.cons.inj hcons).1 hopen
  obtain ⟨rfl, rfl⟩ := Prod.mk.inj heq
  split
  · next hcons => exact absurd (List.cons.inj hcons).1 hraw
  simp only [htilde, if_false, hread]
  rfl

theorem readPart_plain {inside : List Char} {piece : Piece} (hplain : inside.all isInsideChar = true)
    (hread : readPiece inside = some piece) (rest : List Char) :
    readPart (inside ++ '\x7d' :: '\x7d' :: rest) = some (.tag false (some piece) false, rest) := by
  have hsplit := splitTag_append hplain rest
  have htag := readTag_plain hplain hread
  rcases inside with - | ⟨c, inside⟩
  · cases hread
  have hcomment : c ≠ '!' := ne_of_all_isInsideChar hplain List.mem_cons_self rfl
  have htriple : c ≠ '\x7b' := ne_of_all_isInsideChar hplain List.mem_cons_self rfl
  rw [List.cons_append] at hsplit ⊢
  unfold readPart
  split
  · next heq => exact absurd (List.cons.inj heq).1 hcomment
  · next heq => exact absurd (List.cons.inj heq).1 htriple
  · rw [hsplit]
    simp [htag]

/-! ### Reading a text -/

theorem splitRaw_cons {c : Char} {cs : List Char} (h : ¬ ['\x7b', '\x7b'] <+: c :: cs) :
    splitRaw (c :: cs) = (c :: (splitRaw cs).1, (splitRaw cs).2) := by
  rw [splitRaw.eq_def]
  split
  · next heq => cases heq
  · next heq => exact absurd (by simp [heq]) h
  · next heq =>
    obtain ⟨rfl, rfl⟩ := List.cons.inj heq
    rfl

theorem splitRaw_append {raw : List Char} (h : StartsNowhereIn ['\x7b', '\x7b'] raw)
    (cs : List Char) :
    splitRaw (raw ++ cs) = (raw ++ (splitRaw cs).1, (splitRaw cs).2) := by
  induction raw with
  | nil => rfl
  | cons c raw ih =>
    have hopen := h.not_isPrefix (List.cons_ne_nil c raw) cs
    rw [List.cons_append] at hopen ⊢
    rw [splitRaw_cons hopen, ih h.tail, List.cons_append]

/-- Raw text in front is raw text of the first part. -/
theorem readParts_append {raw : List Char} (h : StartsNowhereIn ['\x7b', '\x7b'] raw)
    {n : Nat} {cs first : List Char} {parts : List Part}
    (hparts : readParts n cs = some (.raw first :: parts)) :
    readParts n (raw ++ cs) = some (.raw (raw ++ first) :: parts) := by
  cases n with
  | zero => cases hparts
  | succ n =>
    rw [readParts] at hparts ⊢
    rw [splitRaw_append h]
    rcases hsplit : splitRaw cs with ⟨before, - | rest⟩
    · rw [hsplit] at hparts
      simp only [Option.some.injEq, List.cons.injEq, Part.raw.injEq] at hparts
      rw [← hparts.1, ← hparts.2]
    · rw [hsplit] at hparts
      simp only [Option.bind_eq_bind, Option.bind_eq_some_iff, Option.pure_def,
        Option.some.injEq, List.cons.injEq, Part.raw.injEq] at hparts ⊢
      obtain ⟨part, hpart, more, hmore, rfl, rfl⟩ := hparts
      exact ⟨part, hpart, more, hmore, rfl, rfl⟩

theorem renderChars_text (data : Json) (content : String) (rest : Template) :
    renderChars data (.text content :: rest) = (content.toList ++ ·) <$> renderChars data rest := by
  rw [renderChars, Piece.render]
  cases renderChars data rest <;> rfl

/-- With `n` for a bound the text is read as a template that is rendered like this one. The first
part is raw and no tag trims it, so that more raw text may come in front. -/
def ReadsAs (n : Nat) (cs : List Char) (template : Template) : Prop :=
  ∃ first parts, readParts n cs = some (.raw first :: parts) ∧
    (∀ raw, pieces false (.raw raw :: parts) = .text (String.ofList raw) :: pieces false parts) ∧
    ∀ data, renderChars data (.text (String.ofList first) :: pieces false parts) =
      renderChars data template

theorem ReadsAs.nil (n : Nat) : ReadsAs (n + 1) [] [] :=
  ⟨[], [], rfl, fun _ => rfl, fun _ => rfl⟩

theorem ReadsAs.text {n : Nat} {cs : List Char} {template : Template} {content : String}
    (hcontent : OpensNoTag content) (h : ReadsAs n cs template) :
    ReadsAs n (content.toList ++ cs) (.text content :: template) := by
  obtain ⟨first, parts, hparts, hpieces, hrender⟩ := h
  have hraw := readParts_append (startsNowhereIn_of_opensNoTag hcontent) hparts
  refine ⟨content.toList ++ first, parts, hraw, hpieces, ?_⟩
  intro data
  rw [renderChars_text, renderChars_text, ← hrender, renderChars_text]
  cases renderChars data (pieces false parts) with
  | error e => rfl
  | ok back => simp

theorem ReadsAs.tag {n : Nat} {cs : List Char} {template : Template} {piece : Piece}
    (hplain : piece.inside.all isInsideChar = true) (hread : readPiece piece.inside = some piece)
    (h : ReadsAs n cs template) :
    ReadsAs (n + 1) (piece.tag ++ cs) (piece :: template) := by
  obtain ⟨first, parts, hparts, hpieces, hrender⟩ := h
  refine ⟨[], .tag false (some piece) false :: .raw first :: parts, ?_, fun _ => rfl, ?_⟩
  · have hpart := readPart_plain hplain hread cs
    rw [readParts, Piece.tag]
    simp [splitRaw, hpart, hparts]
  · intro data
    have hpiece : pieces false (.tag false (some piece) false :: .raw first :: parts) =
        piece :: .text (String.ofList first) :: pieces false parts := by
      rw [pieces, hpieces]
      rfl
    rw [renderChars_text, hpiece, renderChars, hrender, renderChars]
    cases piece.render data with
    | error e => rfl
    | ok front => cases renderChars data template <;> rfl

/-- The source of a template of plain pieces is read as the template. -/
theorem readsAs_source {template : Template} (h : ∀ piece ∈ template, piece.IsPlain) {n : Nat}
    (hn : (source template).length < n) : ReadsAs n (source template) template := by
  induction template generalizing n with
  | nil =>
    obtain ⟨n, rfl⟩ := Nat.exists_eq_add_one_of_ne_zero (Nat.ne_zero_of_lt hn)
    exact .nil n
  | cons piece template ih =>
    rw [List.forall_mem_cons] at h
    have hsource : source (piece :: template) = piece.source ++ source template := List.flatMap_cons
    rw [hsource, List.length_append] at hn
    rw [hsource]
    have htag (hplain : piece.inside.all isInsideChar = true)
        (hread : readPiece piece.inside = some piece) (heq : piece.source = piece.tag) :
        ReadsAs n (piece.source ++ source template) (piece :: template) := by
      obtain ⟨n, rfl⟩ := Nat.exists_eq_add_one_of_ne_zero (Nat.ne_zero_of_lt hn)
      have hlength : 1 ≤ piece.tag.length := by simp [Piece.tag]
      rw [heq] at hn ⊢
      exact .tag hplain hread (ih h.2 (by omega))
    cases piece with
    | text content => exact .text h.1 (ih h.2 (by omega))
    | value p => exact htag h.1.1 h.1.2 rfl
    | call helper arguments => exact htag h.1.1 h.1.2 rfl

/-- A template of plain pieces is rendered like what its source is read as. -/
theorem exists_ofText {template : Template} (h : ∀ piece ∈ template, piece.IsPlain) {text : String}
    (htext : text.toList = source template) :
    ∃ read, ofText text = .ok read ∧ ∀ data, read.render data = template.render data := by
  obtain ⟨first, parts, hparts, hpieces, hrender⟩ :=
    readsAs_source h (Nat.lt_succ_self (source template).length)
  refine ⟨pieces false (.raw first :: parts), ?_, ?_⟩
  · rw [ofText, ← String.length_toList, htext, hparts]
  · intro data
    rw [render, hpieces, hrender, render]

end Template

/-! ### Filling in -/

/-- The text with the value of each tag in its place and all else as it is, in one pass: values are
not looked at again. `inside` is what has been read of the tag that is open, if one is. -/
def fillFrom (values : List (String × String)) (inside : Option (List Char)) :
    List Char → Option (List Char)
  | [] => if inside.isNone then some [] else none
  | c :: rest =>
    match inside with
    | none =>
      match c, rest with
      | '\x7b', '\x7b' :: rest => fillFrom values (some []) rest
      | c, rest => (fillFrom values none rest).map (c :: ·)
    | some tag =>
      match c, rest with
      | '\x7d', '\x7d' :: rest => do
        let value ← values.lookup (String.ofList tag)
        let back ← fillFrom values none rest
        return value.toList ++ back
      | c, rest => fillFrom values (some (tag ++ [c])) rest

def fill (values : List (String × String)) (text : String) : Option String :=
  String.ofList <$> fillFrom values none text.toList

section Filling

variable {values : List (String × String)}

theorem fillFrom_cons {c : Char} {rest : List Char} (h : ¬ ['\x7b', '\x7b'] <+: c :: rest) :
    fillFrom values none (c :: rest) = (fillFrom values none rest).map (c :: ·) := by
  rw [fillFrom.eq_def]
  dsimp only
  split
  · exact absurd (by simp) h
  · rfl

theorem fillFrom_append {raw : List Char} (h : StartsNowhereIn ['\x7b', '\x7b'] raw)
    (cs : List Char) :
    fillFrom values none (raw ++ cs) = (fillFrom values none cs).map (raw ++ ·) := by
  induction raw with
  | nil => simp
  | cons c raw ih =>
    have hopen := h.not_isPrefix (List.cons_ne_nil c raw) cs
    rw [List.cons_append] at hopen ⊢
    rw [fillFrom_cons hopen, ih h.tail, Option.map_map]
    rfl

/-- A tag is read up to its closing braces. -/
theorem fillFrom_inside {inside : List Char} (hclose : '\x7d' ∉ inside) (front rest : List Char) :
    fillFrom values (some front) (inside ++ '\x7d' :: '\x7d' :: rest) = do
      let value ← values.lookup (String.ofList (front ++ inside))
      let back ← fillFrom values none rest
      return value.toList ++ back := by
  induction inside generalizing front with
  | nil =>
    rw [List.append_nil]
    rfl
  | cons c inside ih =>
    rw [List.mem_cons, not_or] at hclose
    have hstep : fillFrom values (some front) (c :: (inside ++ '\x7d' :: '\x7d' :: rest)) =
        fillFrom values (some (front ++ [c])) (inside ++ '\x7d' :: '\x7d' :: rest) := by
      rw [fillFrom.eq_def]
      dsimp only
      split
      · exact absurd rfl hclose.1
      · rfl
    rw [List.cons_append, hstep, ih hclose.2, List.append_assoc, List.singleton_append]

theorem not_mem_of_all_isInsideChar {cs : List Char} (h : cs.all isInsideChar = true) :
    '\x7d' ∉ cs := by
  intro hmem
  have hne : '\x7d' ≠ '\x7d' := Template.ne_of_all_isInsideChar h hmem rfl
  exact hne rfl

theorem fillFrom_tag {piece : Piece} {value : String} {cs back : List Char}
    (hplain : piece.inside.all isInsideChar = true)
    (hvalue : values.lookup (String.ofList piece.inside) = some value)
    (hback : fillFrom values none cs = some back) :
    fillFrom values none (piece.tag ++ cs) = some (value.toList ++ back) := by
  have hopen : fillFrom values none (piece.tag ++ cs) =
      fillFrom values (some []) (piece.inside ++ '\x7d' :: '\x7d' :: cs) := by
    rw [Piece.tag]
    simp [fillFrom]
  rw [hopen, fillFrom_inside (not_mem_of_all_isInsideChar hplain), List.nil_append, hvalue, hback]
  rfl

/-- The piece is rendered to the value of its tag. -/
def Piece.IsFilledBy (values : List (String × String)) (data : Json) : Piece → Prop
  | .text _ => True
  | piece => ∃ value, values.lookup (String.ofList piece.inside) = some value ∧
      piece.render data = .ok value.toList

/-- Rendering a template is filling in its source. -/
theorem exists_fillFrom_source {data : Json} {template : Template}
    (hplain : ∀ piece ∈ template, piece.IsPlain)
    (hvalues : ∀ piece ∈ template, piece.IsFilledBy values data) :
    ∃ cs, template.renderChars data = .ok cs ∧
      fillFrom values none (Template.source template) = some cs := by
  induction template with
  | nil => exact ⟨[], rfl, rfl⟩
  | cons piece template ih =>
    rw [List.forall_mem_cons] at hplain hvalues
    obtain ⟨hpiece, hrest⟩ := hplain
    obtain ⟨hvalue, hvalues⟩ := hvalues
    obtain ⟨back, hback, hfilled⟩ := ih hrest hvalues
    have hsource : Template.source (piece :: template) = piece.source ++ Template.source template :=
      List.flatMap_cons
    rw [hsource]
    cases piece with
    | text content =>
      refine ⟨content.toList ++ back, Template.renderChars_cons (Piece.render_text _) hback, ?_⟩
      rw [Piece.source, fillFrom_append (startsNowhereIn_of_opensNoTag hpiece), hfilled]
      rfl
    | value p =>
      obtain ⟨value, hlookup, hrender⟩ := hvalue
      exact ⟨value.toList ++ back, Template.renderChars_cons hrender hback,
        fillFrom_tag hpiece.1 hlookup hfilled⟩
    | call helper arguments =>
      obtain ⟨value, hlookup, hrender⟩ := hvalue
      exact ⟨value.toList ++ back, Template.renderChars_cons hrender hback,
        fillFrom_tag hpiece.1 hlookup hfilled⟩

end Filling

end Scaffold
