import Scaffold.Proofs.Assembly.Declared

/-!
# The line of an identifier

The name of a page may be any text, and its identifier is put into the code of a file as it is. It
begins with a letter and has nothing but letters, digits and two signs in it, so it neither ends
the line that the skeleton puts it on nor starts a tag there (`identifier_keepsPlace`): the head of
a function, the head of a class or the comment in a script is one line whatever the name is, and a
script goes on up to the tag that the skeleton closes it with.
-/

namespace Scaffold

open PageName Text

variable {c : Char} {t : Target} {page : NamedBody} {setting : Setting} {file : File}
  {start stop : String}

/-! ### Lines -/

/-- `line` is a whole line of a text, between what stands above it and what stands below. -/
structure IsLine (above line below : List Char) : Prop where
  begins : above = [] ∨ above.getLast? = some '\n'
  ends : below.head? = some '\n'
  single : ∀ c ∈ line, ¬EndsLine c

theorem PageName.IsPlain.not_endsLine (h : IsPlain c) : ¬EndsLine c := by
  intro hline
  have hseparates : isSeparator c = true := by simp [isSeparator, hline.isSpace]
  rw [h.joins] at hseparates
  cases hseparates

/-- The piece calls `helper`. -/
def Piece.calls (helper : String) : Piece → Bool
  | .call name _ => name == helper
  | _ => false

namespace Target

/-- What stands on the line of the identifier, in front of it and behind it. A document has no
such line. -/
def lineAround? : Target → Option (String × String)
  | react | nextjs => some ("export default function ", "Page() \x7b")
  | vue => some ("// ", "Page")
  | svelte => some ("  // ", "Page")
  | angular => some ("export class ", "PageComponent \x7b\x7d")
  | html => none

/-- A file has the identifier of its page on one line, between `start` and `stop`: the skeleton
has one piece that makes an identifier, and in what its other pieces are rendered to, the line
begins and ends around it. -/
def IsIdentifierLine (t : Target) (page : NamedBody) (setting : Setting) (content : String)
    (start stop : List Char) : Prop :=
  ∃ (front back : Template) (above below : List Char),
    t.skeleton = front ++ Skeleton.call "pascal_case" "name" :: back ∧
    (∀ other ∈ front ++ back, other.calls "pascal_case" = false) ∧
    front.renderChars (t.data page setting) = .ok (above ++ start) ∧
    back.renderChars (t.data page setting) = .ok (stop ++ below) ∧
    content.toList = above ++ (start ++ (identifier page.name).toList ++ stop) ++ below ∧
    IsLine above (start ++ (identifier page.name).toList ++ stop) below

/-- The first `mark` of a file is one of the skeleton: it stands in a text of it, and nowhere in
front. -/
def OwnsFirst (t : Target) (page : NamedBody) (setting : Setting) (content : String)
    (mark : List Char) : Prop :=
  ∃ (front back : Template) (text : String) (before start stop : List Char),
    t.skeleton = front ++ .text text :: back ∧
    text.toList = start ++ mark ++ stop ∧
    front.renderChars (t.data page setting) = .ok before ∧
    FirstAt mark (before ++ start) content.toList

/-! ### The line -/

/-- A skeleton puts the identifier between two texts. The first one begins its line, whatever the
pieces in front are rendered to, and the second one ends it. -/
theorem exists_skeleton_identifier (h : t.lineAround? = some (start, stop)) :
    ∃ (front back : Template) (lead trail : String),
      t.skeleton = front ++ .text (lead ++ start) :: Skeleton.call "pascal_case" "name" ::
        .text (stop ++ trail) :: back ∧
      (∀ other ∈ front ++ back, other.calls "pascal_case" = false) ∧
      (∀ page setting above, front.renderChars (t.data page setting) = .ok above →
        above ++ lead.toList = [] ∨ (above ++ lead.toList).getLast? = some '\n') ∧
      trail.toList.head? = some '\n' := by
  have hlead : ∀ {lead : String}, lead.toList.getLast? = some '\n' → ∀ above : List Char,
      above ++ lead.toList = [] ∨ (above ++ lead.toList).getLast? = some '\n' :=
    fun hlast above => .inr (by rw [List.getLast?_append, hlast, Option.some_or])
  cases t with
  | react | nextjs =>
    cases h
    refine ⟨[Skeleton.value "directive"], Skeleton.react.drop 4, "", "\n  return (\n", rfl,
      by decide, fun page setting above habove => ?_, by decide⟩
    rw [Template.renderChars_cons (render_directive (by simp) page setting)
      Template.renderChars_nil] at habove
    cases habove
    decide
  | vue =>
    cases h
    exact ⟨Skeleton.vue.take 2, Skeleton.vue.drop 5, ">\n", "\n</script>\n\n<template>\n", rfl,
      by decide, fun _ _ above _ => hlead (by decide) above, by decide⟩
  | svelte =>
    cases h
    exact ⟨Skeleton.svelte.take 2, Skeleton.svelte.drop 5, ">\n", "\n</script>\n\n", rfl,
      by decide, fun _ _ above _ => hlead (by decide) above, by decide⟩
  | angular =>
    cases h
    exact ⟨Skeleton.angular.take 4, [], "\n  \x60,\n" ++ "\x7d)\n", "\n", rfl,
      by decide, fun _ _ above _ => hlead (by decide) above, by decide⟩
  | html => cases h

/-- What a skeleton puts on the line of the identifier does not end it. -/
theorem not_endsLine_of_mem_around (h : t.lineAround? = some (start, stop)) :
    (∀ c ∈ start.toList, ¬EndsLine c) ∧ ∀ c ∈ stop.toList, ¬EndsLine c := by
  cases t <;> cases h <;> simp [EndsLine]

theorem isIdentifierLine_of_assemble (h : t.lineAround? = some (start, stop))
    (hfile : t.assemble page setting = .ok file) :
    t.IsIdentifierLine page setting file.content start.toList stop.toList := by
  obtain ⟨front, back, lead, trail, hskeleton, hothers, hbegins, hends⟩ :=
    exists_skeleton_identifier h
  obtain ⟨above, rest, hfront, hrest, hcontent⟩ := exists_parts hskeleton hfile
  -- the text in front, the identifier and the text behind are the next three pieces
  obtain ⟨_, shown, hlead, hshown, rfl⟩ := Template.renderChars_cons_eq_ok.mp hrest
  obtain ⟨named, after, hnamed, hafter, rfl⟩ := Template.renderChars_cons_eq_ok.mp hshown
  obtain ⟨_, below, htrail, hbelow, rfl⟩ := Template.renderChars_cons_eq_ok.mp hafter
  rw [Skeleton.render_identifier (t.at?_name page setting), Except.ok.injEq] at hnamed
  subst hnamed
  cases hlead
  cases htrail
  refine ⟨front ++ [.text (lead ++ start)], .text (stop ++ trail) :: back, above ++ lead.toList,
    trail.toList ++ below, ?_, ?_, ?_, ?_, ?_, hbegins page setting above hfront, ?_, ?_⟩
  · rw [hskeleton, List.append_assoc, List.singleton_append]
  · simpa [Piece.calls, or_imp, forall_and] using hothers
  · rw [List.append_assoc, ← String.toList_append, ← List.append_nil (lead ++ start).toList]
    exact Template.renderChars_append hfront
      (Template.renderChars_cons (Piece.render_text _) Template.renderChars_nil)
  · rw [← List.append_assoc, ← String.toList_append]
    exact Template.renderChars_cons (Piece.render_text _) hbelow
  · simp [hcontent]
  · rw [List.head?_append, hends, Option.some_or]
  · obtain ⟨hstart, hstop⟩ := not_endsLine_of_mem_around h
    have hname : ∀ c ∈ (identifier page.name).toList, ¬EndsLine c := fun c hc =>
      (isPlain_of_mem_identifier hc).not_endsLine
    simp only [List.mem_append, or_imp, forall_and]
    exact ⟨⟨hstart, hname⟩, hstop⟩

/-! ### The end of a script -/

/-- Nothing that a script says closes it. -/
theorem startsNowhereIn_script (t : Target) (typescript : Bool) (name : String) :
    StartsNowhereIn "</script>".toList
      (t.scriptFront typescript ++ ("// ".toList ++ (identifier name).toList) ++
        "Page\n".toList) := by
  have hstart : StartsNowhereIn "</script>".toList (t.scriptFront typescript) := by
    cases t <;> cases typescript <;> decide
  have hslashes : StartsNowhereIn "</script>".toList "// ".toList := by decide
  have hname : StartsNowhereIn "</script>".toList (identifier name).toList :=
    startsNowhereIn_of_head_notMem (notMem_identifier_of_dropped (by decide +kernel) name)
  have hsuffix : StartsNowhereIn "</script>".toList "Page\n".toList := by decide
  exact (hstart.append (hslashes.append hname)).append hsuffix

theorem ownsFirst_script (ht : t = vue ∨ t = svelte)
    (hfile : t.assemble page setting = .ok file) :
    t.OwnsFirst page setting file.content "</script>".toList := by
  obtain ⟨stop, back, hskeleton⟩ := skeleton_script ht
  obtain ⟨after, hcontent⟩ := exists_content_script ht hfile
  refine ⟨_, back, _, _, "Page\n".toList, stop.toList, hskeleton, by simp,
    renderChars_scriptFront ht page setting, ?_⟩
  have hwhole : file.content.toList =
      (t.scriptFront setting.typescript ++ ("// ".toList ++ (identifier page.name).toList) ++
        "Page\n".toList) ++ "</script>".toList ++ after := by
    rw [hcontent]
    simp
  rw [hwhole]
  exact (t.startsNowhereIn_script setting.typescript page.name).firstAt after

end Target

/-! ### Identifiers keep their place -/

/-- An identifier is not empty, begins with a letter and has only letters, digits and two signs in
it. So every target that names a component puts it on one line, and a script ends where the
skeleton closes it. -/
theorem identifier_keepsPlace (name : String) :
    (∃ c tail, (identifier name).toList = c :: tail ∧ isAlphabetic c = true) ∧
    (∀ c ∈ (identifier name).toList, isAlphanumeric c = true ∨ c = '_' ∨ c = '$') ∧
    ∀ (t : Target) (start stop : String), t.lineAround? = some (start, stop) →
      ∀ (body : Body) (setting : Setting), ∃ file, t.assemble ⟨name, body⟩ setting = .ok file ∧
        t.IsIdentifierLine ⟨name, body⟩ setting file.content start.toList stop.toList ∧
        (t = .vue ∨ t = .svelte →
          t.OwnsFirst ⟨name, body⟩ setting file.content "</script>".toList) := by
  refine ⟨?_, fun c hc => ?_, fun t start stop h body setting => ?_⟩
  · obtain ⟨c, tail, hname, hc, -⟩ := exists_toList_identifier name
    exact ⟨c, tail, hname, hc⟩
  · have hkeeps := (isPlain_of_mem_identifier hc).keeps
    simpa [isIdentifierChar, or_assoc] using hkeeps
  · obtain ⟨file, hfile⟩ := t.exists_assemble ⟨name, body⟩ setting
    exact ⟨file, hfile, Target.isIdentifierLine_of_assemble h hfile,
      fun ht => Target.ownsFirst_script ht hfile⟩

/-- A name that closes the script and ends two lines, and a body that closes the script again. -/
theorem identifier_keepsPlace_script :
    identifier "1</script>\n\u2028x" = "Page1scriptX" ∧
    Target.svelte.lineAround? = some ("  // ", "Page") ∧
    ∃ file, Target.svelte.assemble ⟨"1</script>\n\u2028x", .markup "</script>"⟩
        ⟨"My App", false, {}, true⟩ = .ok file ∧
      Target.svelte.IsIdentifierLine ⟨"1</script>\n\u2028x", .markup "</script>"⟩
        ⟨"My App", false, {}, true⟩ file.content "  // ".toList "Page".toList ∧
      Target.svelte.OwnsFirst ⟨"1</script>\n\u2028x", .markup "</script>"⟩
        ⟨"My App", false, {}, true⟩ file.content "</script>".toList := by
  obtain ⟨file, hfile, hline, hfirst⟩ := (identifier_keepsPlace "1</script>\n\u2028x").2.2 .svelte
    "  // " "Page" rfl (.markup "</script>") ⟨"My App", false, {}, true⟩
  exact ⟨by decide +kernel, rfl, file, hfile, hline, hfirst (.inr rfl)⟩

end Scaffold
