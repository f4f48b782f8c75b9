import Scaffold.Proofs.Assembly.Escape
import Scaffold.Proofs.Assembly.Rendering
import Scaffold.Proofs.Respelling.OnePass

/-!
# The literal template of a component

A component file holds its markup in a template literal. `readLiteral` reads such a literal as the
language of the file does, and `decodeEntities` an entity as the template language does. Reading
undoes one escape of the body and decoding the other, and the literal ends where its skeleton ends
it, whatever the body is.
-/

namespace Scaffold

open Text

/-- Reads a template literal behind its opening backquote: the text up to the backquote that closes
it, and what is left behind. A backslash takes the next character as it is. Nothing is read when a
placeholder opens, or when the text ends before the literal does. -/
def readLiteral : List Char → Option (List Char × List Char)
  | [] => none
  | '\x60' :: rest => some ([], rest)
  | ['\\'] => none
  | '\\' :: c :: rest => (readLiteral rest).map fun (value, after) => (c :: value, after)
  | '$' :: '\x7b' :: _ => none
  | c :: rest => (readLiteral rest).map fun (value, after) => (c :: value, after)

/-! ### Reading undoes escaping -/

theorem readLiteral_cons {c : Char} {rest : List Char} (hquote : c ≠ '\x60') (hslash : c ≠ '\\')
    (hopen : ¬ ['$', '\x7b'] <+: c :: rest) :
    readLiteral (c :: rest) =
      (readLiteral rest).map fun (value, after) => (c :: value, after) := by
  rw [readLiteral.eq_def]
  split <;> simp_all

/-- A backslash or a backquote is escaped by itself. -/
theorem escapeLiteral_cons_special {c : Char} (hc : c = '\\' ∨ c = '\x60') (rest : List Char) :
    escapeLiteral (c :: rest) = '\\' :: c :: escapeLiteral rest := by
  have hchar : literalChar c = ['\\', c] := by
    rcases hc with rfl | rfl <;> rfl
  have hdollar : '$' ≠ c := by
    rcases hc with rfl | rfl <;> decide
  rw [escapeLiteral_eq, escapeLiteral_eq, List.flatMap_cons, hchar, List.cons_append,
    List.singleton_append, replaceAll_cons (by simp), replaceAll_cons (by simp [hdollar])]

theorem escapeLiteral_placeholder (rest : List Char) :
    escapeLiteral ('$' :: '\x7b' :: rest) = '\\' :: '$' :: '\x7b' :: escapeLiteral rest := by
  have hchars : ('$' :: '\x7b' :: rest).flatMap literalChar =
      ['$', '\x7b'] ++ rest.flatMap literalChar := by
    simp [literalChar]
  rw [escapeLiteral_eq, hchars, replaceAll_pattern_append (by simp), ← escapeLiteral_eq]
  rfl

/-- Any other character stays. -/
theorem escapeLiteral_cons {c : Char} {rest : List Char} (hquote : c ≠ '\x60') (hslash : c ≠ '\\')
    (hopen : ¬ ['$', '\x7b'] <+: c :: rest) :
    escapeLiteral (c :: rest) = c :: escapeLiteral rest := by
  have hchar : literalChar c = [c] := by
    simp [literalChar, hquote, hslash]
  rw [escapeLiteral_eq, escapeLiteral_eq, List.flatMap_cons, hchar, List.singleton_append]
  refine replaceAll_cons fun hp => hopen ?_
  have hwhole : ['$', '\x7b'] <+: (c :: rest).flatMap literalChar := by
    rwa [List.flatMap_cons, hchar, List.singleton_append]
  refine prefix_of_prefix_flatMap (fun d => ?_) hwhole
  unfold literalChar
  split
  · exact .inr ⟨_, _, rfl, by decide⟩
  · split
    · exact .inr ⟨_, _, rfl, by decide⟩
    · exact .inl rfl

/-- Induction along the escape of a text. -/
theorem escapeLiteral_induction {motive : List Char → Prop} (nil : motive [])
    (special : ∀ c rest, c = '\\' ∨ c = '\x60' → motive rest → motive (c :: rest))
    (placeholder : ∀ rest, motive rest → motive ('$' :: '\x7b' :: rest))
    (other : ∀ c rest, c ≠ '\x60' → c ≠ '\\' → ¬ ['$', '\x7b'] <+: c :: rest → motive rest →
      motive (c :: rest)) (cs : List Char) : motive cs := by
  induction hn : cs.length using Nat.strongRecOn generalizing cs with
  | _ n ih =>
    rcases cs with - | ⟨c, rest⟩
    · exact nil
    have hrest : motive rest := ih rest.length (by simp [← hn]) rest rfl
    by_cases hspecial : c = '\\' ∨ c = '\x60'
    · exact special c rest hspecial hrest
    by_cases hopen : ['$', '\x7b'] <+: c :: rest
    · obtain ⟨after, heq⟩ := hopen
      obtain ⟨rfl, rfl⟩ := List.cons.inj heq
      refine placeholder after (ih after.length ?_ after rfl)
      rw [← hn]
      exact Nat.lt_succ_of_lt (Nat.lt_succ_self after.length)
    · rw [not_or] at hspecial
      exact other c rest hspecial.2 hspecial.1 hopen hrest

/-- An escaped text starts with a brace only if the text does. -/
theorem brace_prefix_of_escapeLiteral {cs after : List Char}
    (h : ['\x7b'] <+: escapeLiteral cs ++ '\x60' :: after) : ['\x7b'] <+: cs := by
  induction cs using escapeLiteral_induction with
  | nil => simp [escapeLiteral, replaceAll, replaceFrom] at h
  | special c rest hc => simp [escapeLiteral_cons_special hc] at h
  | placeholder rest => simp [escapeLiteral_placeholder] at h
  | other c rest hquote hslash hopen =>
    rw [escapeLiteral_cons hquote hslash hopen] at h
    simpa using h

/-- What was escaped is read back, and the literal ends at the backquote behind it. -/
theorem readLiteral_escapeLiteral (cs after : List Char) :
    readLiteral (escapeLiteral cs ++ '\x60' :: after) = some (cs, after) := by
  induction cs using escapeLiteral_induction with
  | nil => rfl
  | special c rest hc ih =>
    rw [escapeLiteral_cons_special hc]
    simp [readLiteral, ih]
  | placeholder rest ih =>
    rw [escapeLiteral_placeholder]
    have hbrace : readLiteral ('\x7b' :: (escapeLiteral rest ++ '\x60' :: after)) =
        some ('\x7b' :: rest, after) := by
      rw [readLiteral_cons (by decide) (by decide) (by simp), ih]
      rfl
    simp [readLiteral, hbrace]
  | other c rest hquote hslash hopen ih =>
    rw [escapeLiteral_cons hquote hslash hopen, List.cons_append,
      readLiteral_cons hquote hslash, ih]
    · rfl
    · -- a brace that opened a placeholder here would stand in the text already
      intro hp
      rw [List.cons_prefix_cons] at hp
      exact hopen (List.cons_prefix_cons.mpr ⟨hp.1, brace_prefix_of_escapeLiteral hp.2⟩)

/-! ### Decoding entities -/

/-- A text with the character of each entity in its place. -/
def decodeEntities (cs : List Char) : List Char := onePass entities cs

theorem entities_orderly : Orderly entities := by
  constructor <;> decide

/-- Entities written into a text put no further one together: an entity has its ampersand in front
and none behind. -/
theorem prefix_of_prefix_escapeInterpolation {r : Rule} (hr : r ∈ entities) {c : Char}
    {rest : List Char} (h : r.keyword.toList <+: c :: escapeInterpolation rest) :
    r.keyword.toList <+: c :: rest := by
  have hshape : ∀ r ∈ entities, ∃ name, r.keyword.toList = '&' :: name ∧ '&' ∉ name := by
    simp [entities]
  obtain ⟨name, hkeyword, hname⟩ := hshape r hr
  rw [hkeyword, List.cons_prefix_cons] at h ⊢
  refine ⟨h.1, prefix_of_prefix_flatMap (fun d => ?_) h.2⟩
  rcases templateEntity_spec d with heq | ⟨q, hq, hentity, -⟩
  · exact .inl heq
  · obtain ⟨more, hmore, -⟩ := hshape q hq
    exact .inr ⟨'&', more, hentity.trans hmore, hname⟩

/-- What was replaced by its entity is decoded, and nothing else is changed. -/
theorem decodeEntities_escapeInterpolation (cs : List Char) :
    decodeEntities (escapeInterpolation cs) = decodeEntities cs := by
  unfold decodeEntities
  induction cs using entities_orderly.pass_induction with
  | nil => rfl
  | keyword r hr rest ih =>
    have hkept : ∀ r ∈ entities, escapeInterpolation r.keyword.toList = r.keyword.toList := by
      decide
    have hsplit : escapeInterpolation (r.keyword.toList ++ rest) =
        r.keyword.toList ++ escapeInterpolation rest := by
      rw [escapeInterpolation, List.flatMap_append]
      exact congrArg (· ++ _) (hkept r hr)
    rw [hsplit, entities_orderly.onePass_keyword_append hr, ih,
      entities_orderly.onePass_keyword_append hr]
  | char c rest hstarts ih =>
    have hcons : escapeInterpolation (c :: rest) = templateEntity c ++ escapeInterpolation rest :=
      List.flatMap_cons
    rw [hcons, onePass_cons hstarts, ← ih]
    rcases templateEntity_spec c with heq | ⟨r, hr, hkeyword, hspelling⟩
    · rw [heq, List.singleton_append]
      exact onePass_cons fun r hr hp => hstarts r hr (prefix_of_prefix_escapeInterpolation hr hp)
    · -- `c` is written as an entity, which decoding takes for `c` again
      rw [hkeyword, entities_orderly.onePass_keyword_append hr, hspelling, List.singleton_append]

/-! ### The file -/

/-- The text of a component file in front of its template literal. -/
def literalFront (name : String) : List Char :=
  ("import \x7b Component \x7d from '@angular/core';\n\n@Component(\x7b\n  selector: 'app-" ++
    PageName.segment name ++ "-page',\n  standalone: true,\n  template: ").toList

/-- The text of a component file behind its template literal. -/
def literalBack (name : String) : List Char :=
  (",\n\x7d)\nexport class " ++ PageName.identifier name ++ "PageComponent \x7b\x7d\n").toList

/-- A text on lines of its own, as the body stands in the literal. -/
def framed (cs : List Char) : List Char := '\n' :: (cs ++ "\n  ".toList)

/-- The inside of the literal: the body on lines of its own. -/
def literalInside (body : Body) : List Char :=
  framed (Target.angular.bodyRegion body).toList

theorem assemble_angular (page : NamedBody) (setting : Setting) :
    Target.angular.assemble page setting =
      .ok ⟨filePath page.name "-page" "component.ts",
        String.ofList (literalFront page.name ++ '\x60' :: literalInside page.body ++
          '\x60' :: literalBack page.name)⟩ := by
  have hname : (Target.angular.data page setting).at? ["name"] = some (.str page.name) := by
    rw [Target.at?_data, Target.lookup_name]
    rfl
  have hbody := Target.angular.render_bodyPiece page setting
  have hwhole : Target.angular.skeleton.renderChars (Target.angular.data page setting) = .ok _ :=
    Template.renderChars_cons (Piece.render_text _) <|
    Template.renderChars_cons (Skeleton.render_segment hname) <|
    Template.renderChars_cons (Piece.render_text _) <|
    Template.renderChars_cons hbody <|
    Template.renderChars_cons (Piece.render_text _) <|
    Template.renderChars_cons (Skeleton.render_identifier hname) <|
    Template.renderChars_cons (Piece.render_text _) Template.renderChars_nil
  rw [Target.assemble_eq hwhole]
  simp only [Target.pathSuffix, Target.fileExtension, literalFront, literalInside, framed,
    literalBack, String.toList_append]
  simp

/-- The body as it stands in the literal once its backslashes are read. -/
theorem toList_indent_escapeInterpolation (content : String) (spaces : Nat) :
    (indent (String.ofList (escapeInterpolation content.toList)) spaces).toList =
      escapeInterpolation (indent content spaces).toList := by
  have h := toList_indent_flatMap templateEntity_keepsSpace content.toList spaces
  rwa [String.ofList_toList] at h

/-- An escape that keeps white space does not touch the frame. -/
theorem framed_flatMap {f : Char → List Char} (hf : KeepsSpace f) (cs : List Char) :
    (framed cs).flatMap f = framed (cs.flatMap f) := by
  simp [framed, hf.space '\n' rfl, hf.space ' ' rfl]

/-- The inside of the literal is the framed body under both escapes, in whatever order it is
indented and escaped. -/
theorem literalInside_eq (body : Body) :
    literalInside body =
      escapeLiteral (escapeInterpolation (framed (indent (body.render .html) 4).toList)) := by
  -- with the entities in place no brace is left, and both escapes go character by character
  have hbody : ∀ cs, escapeLiteral (escapeInterpolation cs) =
      (escapeInterpolation cs).flatMap literalChar := fun cs =>
    escapeLiteral_of_no_brace (not_mem_escapeInterpolation cs).2.1
  have hregion : (Target.angular.bodyRegion body).toList =
      (escapeInterpolation (indent (body.render .html) 4).toList).flatMap literalChar := by
    rw [← toList_indent_escapeInterpolation, ← toList_indent_flatMap literalChar_keepsSpace,
      ← hbody]
    rfl
  rw [literalInside, hregion, hbody, ← framed_flatMap literalChar_keepsSpace]
  exact congrArg (·.flatMap literalChar) (framed_flatMap templateEntity_keepsSpace _).symm

/-- Whatever the body is, the literal of a component file holds nothing that its template would
take for its own, is read up to the backquote of the skeleton as the body with its entities,
indented, and shows the characters of the body. -/
theorem angular_template_sealed (name : String) (body : Body) (setting : Setting) :
    ∃ inside value : List Char,
      Target.angular.assemble ⟨name, body⟩ setting =
        .ok ⟨filePath name "-page" "component.ts",
          String.ofList (literalFront name ++ '\x60' :: inside ++ '\x60' :: literalBack name)⟩ ∧
      ('@' ∉ inside ∧ '\x7b' ∉ inside ∧ '\x7d' ∉ inside) ∧
      readLiteral (inside ++ '\x60' :: literalBack name) = some (value, literalBack name) ∧
      value = framed
        (indent (String.ofList (escapeInterpolation (body.render .html).toList)) 4).toList ∧
      decodeEntities value = decodeEntities (framed (indent (body.render .html) 4).toList) := by
  refine ⟨literalInside body,
    escapeInterpolation (framed (indent (body.render .html) 4).toList),
    assemble_angular ⟨name, body⟩ setting, ?_, ?_, ?_, ?_⟩
  · rw [literalInside_eq]
    exact not_mem_escaped _
  · rw [literalInside_eq]
    exact readLiteral_escapeLiteral _ _
  · rw [toList_indent_escapeInterpolation]
    exact framed_flatMap templateEntity_keepsSpace _
  · exact decodeEntities_escapeInterpolation _

end Scaffold
