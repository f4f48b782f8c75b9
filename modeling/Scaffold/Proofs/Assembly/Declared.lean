import Scaffold.Proofs.Assembly.Selector
import Scaffold.Proofs.PageName.Identifier

/-!
# The names that a file declares

A file of a component says its name: in the head of a function, in the comment of an empty script,
or in the class at the end of the file. `componentName?` and `selector?` read the two names of a
component off the text of its file, and what they read is made from the name of the page alone, the
first from its identifier and the second from its segment (`componentName?_of_assemble`,
`selector?_of_assemble`).
-/

namespace Scaffold

open PageName Text

variable {t : Target} {name : String} {body : Body} {setting : Setting} {file : File}

/-! ### Looking for a mark -/

/-- What stands behind the first occurrence of `mark` in a text. -/
def behind? (mark : List Char) : List Char → Option (List Char)
  | [] => none
  | c :: rest =>
    if mark.isPrefixOf (c :: rest) then some ((c :: rest).drop mark.length) else behind? mark rest

theorem behind?_append {mark front : List Char} (hne : mark ≠ [])
    (hfront : StartsNowhereIn mark front) (rest : List Char) :
    behind? mark (front ++ (mark ++ rest)) = some rest := by
  induction front with
  | nil =>
    obtain ⟨c, more, rfl⟩ := List.exists_cons_of_ne_nil hne
    have hmark : (c :: more).isPrefixOf (c :: (more ++ rest)) = true :=
      List.isPrefixOf_iff_prefix.mpr (List.prefix_append (c :: more) rest)
    rw [List.nil_append, List.cons_append, behind?, if_pos hmark]
    simp
  | cons c front ih =>
    have hmark : ¬mark.isPrefixOf (c :: (front ++ (mark ++ rest))) = true := by
      rw [List.isPrefixOf_iff_prefix]
      exact hfront.not_isPrefix (List.cons_ne_nil c front) _
    rw [List.cons_append, behind?, if_neg hmark, ih hfront.tail]

/-- The text up to the first place of a character. -/
def upTo (stop : Char) (cs : List Char) : List Char := cs.takeWhile (· != stop)

theorem upTo_append {stop : Char} {cs : List Char} (h : stop ∉ cs) (rest : List Char) :
    upTo stop (cs ++ stop :: rest) = cs := by
  have hcs : ∀ c ∈ cs, (c != stop) = true := by
    intro c hc
    rw [bne_iff_ne]
    rintro rfl
    exact h hc
  rw [upTo, List.takeWhile_append_of_pos hcs, List.takeWhile_cons_of_neg (by simp),
    List.append_nil]

/-- What is read behind a mark and up to a character is what stands between the two. -/
theorem behind?_upTo {mark front named : List Char} {stop : Char} (hne : mark ≠ [])
    (hfront : StartsNowhereIn mark front) (hnamed : stop ∉ named) (rest : List Char) :
    (behind? mark (front ++ (mark ++ (named ++ stop :: rest)))).map (upTo stop) = some named := by
  rw [behind?_append hne hfront, Option.map_some, upTo_append hnamed]

/-! ### Reading the names -/

namespace Target

/-- The name that a file declares its component by: the name of a function, what the comment of a
script says, or the name of the class at the end. A document declares none. -/
def componentName? (t : Target) (content : String) : Option (List Char) :=
  match t with
  | react | nextjs => (behind? "export default function ".toList content.toList).map (upTo '(')
  | vue | svelte => (behind? "// ".toList content.toList).map (upTo '\n')
  | angular =>
    ((behind? " \x7b\x7d\n".toList.reverse content.toList.reverse).map (upTo ' ')).map .reverse
  | html => none

/-- The rest of the line that gives the selector of a component. -/
def selector? (t : Target) (content : String) : Option (List Char) :=
  match t with
  | angular => (behind? "selector: ".toList content.toList).map (upTo '\n')
  | _ => none

/-- What is put behind an identifier for the name of a component. -/
def componentSuffix? : Target → Option String
  | angular => some "PageComponent"
  | html => none
  | _ => some "Page"

/-! ### The start of a file -/

/-- A file starts with what the first pieces of its skeleton are rendered to. -/
theorem exists_content {front back : Template} {page : NamedBody} {before : List Char}
    (hskeleton : t.skeleton = front ++ back)
    (hfront : front.renderChars (t.data page setting) = .ok before)
    (h : t.assemble page setting = .ok file) :
    ∃ after, file.content.toList = before ++ after := by
  obtain ⟨_, after, hbefore, -, hcontent⟩ := exists_parts hskeleton h
  rw [hfront] at hbefore
  cases hbefore
  exact ⟨after, hcontent⟩

theorem at?_name (t : Target) (page : NamedBody) (setting : Setting) :
    (t.data page setting).at? ["name"] = some (.str page.name) := by
  rw [at?_data, lookup_name]
  rfl

theorem render_directive (ht : t = react ∨ t = nextjs) (page : NamedBody) (setting : Setting) :
    (Skeleton.value "directive").render (t.data page setting) = .ok t.directive.toList := by
  have hdirective : (t.data page setting).at? ["directive"] = some (.str t.directive) := by
    rw [at?_data]
    rcases ht with rfl | rfl <;> rfl
  exact Skeleton.render_value hdirective

theorem exists_content_react (ht : t = react ∨ t = nextjs)
    (h : t.assemble ⟨name, body⟩ setting = .ok file) :
    ∃ after, file.content.toList = t.directive.toList ++ ("export default function ".toList ++
      ((identifier name ++ "Page").toList ++ '(' :: after)) := by
  have hskeleton : t.skeleton = Skeleton.react.take 4 ++ Skeleton.react.drop 4 := by
    rcases ht with rfl | rfl <;> rfl
  have hfront : Template.renderChars (t.data ⟨name, body⟩ setting) (Skeleton.react.take 4) =
      .ok _ :=
    Template.renderChars_cons (render_directive ht _ _) <|
    Template.renderChars_cons (Piece.render_text _) <|
    Template.renderChars_cons (Skeleton.render_identifier (t.at?_name _ _)) <|
    Template.renderChars_cons (Piece.render_text _) Template.renderChars_nil
  obtain ⟨after, hafter⟩ := exists_content hskeleton hfront h
  refine ⟨") \x7b\n  return (\n".toList ++ after, ?_⟩
  rw [hafter]
  simp

/-- The start of a single-file component, up to the comment in its script. -/
def scriptFront (t : Target) (typescript : Bool) : List Char :=
  match t with
  | vue => ("<script setup" ++ scriptLang typescript ++ ">\n").toList
  | _ => ("<script" ++ scriptLang typescript ++ ">\n  ").toList

theorem startsNowhereIn_scriptFront (t : Target) (typescript : Bool) :
    StartsNowhereIn "// ".toList (t.scriptFront typescript) := by
  cases t <;> cases typescript <;> decide

theorem renderChars_scriptFront (ht : t = vue ∨ t = svelte) (page : NamedBody)
    (setting : Setting) :
    Template.renderChars (t.data page setting) (t.skeleton.take 4) =
      .ok (t.scriptFront setting.typescript ++ ("// ".toList ++ (identifier page.name).toList)) := by
  have hlang : (t.data page setting).at? ["lang"] =
      some (.str (scriptLang setting.typescript)) := by
    rw [at?_data]
    rcases ht with rfl | rfl <;> rfl
  have hrender : ∀ start gap : String,
      Template.renderChars (t.data page setting) [.text start, Skeleton.value "lang", .text gap,
        Skeleton.call "pascal_case" "name"] =
      .ok (start.toList ++ ((scriptLang setting.typescript).toList ++ (gap.toList ++
        ((identifier page.name).toList ++ [])))) := fun start gap =>
    Template.renderChars_cons (Piece.render_text start) <|
    Template.renderChars_cons (Skeleton.render_value hlang) <|
    Template.renderChars_cons (Piece.render_text gap) <|
    Template.renderChars_cons (Skeleton.render_identifier (t.at?_name _ _)) Template.renderChars_nil
  rcases ht with rfl | rfl
  · refine (hrender _ _).trans ?_
    simp [scriptFront]
  · refine (hrender _ _).trans ?_
    show _ = Except.ok (("<script" ++ scriptLang setting.typescript ++ ">\n  ").toList ++ _)
    simp

/-- The comment of a script is its last line. -/
theorem skeleton_script (ht : t = vue ∨ t = svelte) :
    ∃ (stop : String) (back : Template),
      t.skeleton = t.skeleton.take 4 ++ .text ("Page\n</script>" ++ stop) :: back := by
  rcases ht with rfl | rfl
  · exact ⟨"\n\n<template>\n", Skeleton.vue.drop 5, rfl⟩
  · exact ⟨"\n\n", Skeleton.svelte.drop 5, rfl⟩

theorem exists_content_script (ht : t = vue ∨ t = svelte)
    (h : t.assemble ⟨name, body⟩ setting = .ok file) :
    ∃ after, file.content.toList = t.scriptFront setting.typescript ++ ("// ".toList ++
      ((identifier name ++ "Page").toList ++ '\n' :: ("</script>".toList ++ after))) := by
  obtain ⟨stop, back, hskeleton⟩ := skeleton_script ht
  have hfront := Template.renderChars_append (renderChars_scriptFront ht ⟨name, body⟩ setting)
    (Template.renderChars_cons (Piece.render_text ("Page\n</script>" ++ stop))
      Template.renderChars_nil)
  obtain ⟨after, hafter⟩ := exists_content (hskeleton.trans (List.append_cons _ _ _)) hfront h
  refine ⟨stop.toList ++ after, ?_⟩
  rw [hafter]
  simp

/-! ### The end of a file -/

theorem exists_content_angular (h : angular.assemble ⟨name, body⟩ setting = .ok file) :
    ∃ front, file.content.toList = front ++ ' ' :: ((identifier name ++ "PageComponent").toList ++
      " \x7b\x7d\n".toList) := by
  rw [assemble_angular, Except.ok.injEq] at h
  refine ⟨literalFront name ++ '\x60' :: literalInside body ++
    '\x60' :: ",\n\x7d)\nexport class".toList, ?_⟩
  rw [← h, String.toList_ofList, literalBack]
  simp

/-! ### The names in a file -/

/-- An identifier has none of the characters that end the name of a component. -/
theorem notMem_identifier {stop : Char} (h : stop ∈ ['(', '\n', ' ']) (name : String) :
    stop ∉ (identifier name).toList := by
  have hdrops : (['(', '\n', ' '].all fun c => !isIdentifierChar c) = true := by decide +kernel
  have hstop : isIdentifierChar stop = false := by simpa using List.all_eq_true.mp hdrops stop h
  exact notMem_identifier_of_dropped hstop name

theorem notMem_component {stop : Char} (h : stop ∈ ['(', '\n', ' ']) (name : String)
    {suffix : String} (hsuffix : suffix = "Page" ∨ suffix = "PageComponent") :
    stop ∉ (identifier name ++ suffix).toList := by
  have hidentifier := notMem_identifier h name
  simp only [List.mem_cons, List.not_mem_nil, or_false] at h
  have hplain : stop ∉ suffix.toList := by
    rcases hsuffix with rfl | rfl <;> rcases h with rfl | rfl | rfl <;> decide
  rw [String.toList_append, List.mem_append]
  exact not_or.mpr ⟨hidentifier, hplain⟩

/-- The component of a file has the identifier of its page for a name, and a suffix. -/
theorem componentName?_of_assemble (h : t.assemble ⟨name, body⟩ setting = .ok file) :
    t.componentName? file.content =
      t.componentSuffix?.map fun suffix => (identifier name ++ suffix).toList := by
  cases t with
  | react | nextjs =>
    obtain ⟨after, hcontent⟩ := exists_content_react (by simp) h
    rw [componentName?, hcontent]
    exact behind?_upTo (by decide) (by decide) (notMem_component (by decide) name (.inl rfl)) after
  | vue | svelte =>
    obtain ⟨after, hcontent⟩ := exists_content_script (by simp) h
    rw [componentName?, hcontent]
    exact behind?_upTo (by decide) (startsNowhereIn_scriptFront _ _)
      (notMem_component (by decide) name (.inl rfl)) ("</script>".toList ++ after)
  | angular =>
    -- what stands in front of the class is not known, so its name is read from the end
    obtain ⟨front, hcontent⟩ := exists_content_angular h
    have hname : ' ' ∉ (identifier name ++ "PageComponent").toList.reverse := by
      rw [List.mem_reverse]
      exact notMem_component (by decide) name (.inr rfl)
    have hfront : StartsNowhereIn " \x7b\x7d\n".toList.reverse [] := by decide
    have hreverse : file.content.toList.reverse = [] ++ (" \x7b\x7d\n".toList.reverse ++
        ((identifier name ++ "PageComponent").toList.reverse ++ ' ' :: front.reverse)) := by
      rw [hcontent]
      simp
    rw [componentName?, hreverse, behind?_upTo (by decide) hfront hname, Option.map_some,
      List.reverse_reverse]
    rfl
  | html => rfl

/-- The selector of a component is a literal with the segment of its page in it, in front of a
comma. -/
theorem selector?_of_assemble (h : t.assemble ⟨name, body⟩ setting = .ok file) :
    t.selector? file.content =
      if t = angular then some ('\x27' :: selectorInside name ++ ['\x27', ',']) else none := by
  cases t with
  | angular =>
    rw [assemble_angular_selector, Except.ok.injEq] at h
    have hfront : selectorFront = ("import \x7b Component \x7d from '@angular/core';\n\n" ++
        "@Component(\x7b\n  ").toList ++ "selector: ".toList := by
      decide
    have hback : betweenLiterals = ',' :: '\n' :: "  standalone: true,\n  template: ".toList := rfl
    have hcontent : file.content.toList = ("import \x7b Component \x7d from '@angular/core';\n\n" ++
        "@Component(\x7b\n  ").toList ++ ("selector: ".toList ++
          (('\x27' :: selectorInside name ++ ['\x27', ',']) ++ '\n' ::
            ("  standalone: true,\n  template: ".toList ++
              '\x60' :: literalInside body ++ '\x60' :: literalBack name))) := by
      rw [← h, String.toList_ofList, hfront, selectorBack, hback]
      simp
    have hline : '\n' ∉ '\x27' :: selectorInside name ++ ['\x27', ','] := by
      have hinside : '\n' ∉ selectorInside name := fun hmem =>
        not_endsLine_of_mem_selectorInside hmem (by decide)
      simp [hinside]
    rw [selector?, hcontent, if_pos rfl]
    exact behind?_upTo (by decide) (by decide) hline _
  | _ => rfl

theorem selectorInside_inj {name other : String} :
    selectorInside name = selectorInside other ↔ segment name = segment other := by
  simp [selectorInside, ← String.toList_inj]

end Target

end Scaffold
