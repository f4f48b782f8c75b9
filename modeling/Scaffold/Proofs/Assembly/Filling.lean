import Scaffold.Proofs.Assembly.Frame
import Scaffold.Proofs.Assembly.TemplateSource

/-!
# Filling in the skeletons

The text of each skeleton, and what stands in it for each of its tags. A file is the text with the
values in the places of the tags, and nothing else of its page, its setting or its target shows.
-/

namespace Scaffold

/-! ### The texts of the skeletons -/

/-- A tag of a skeleton. -/
def tagText (inside : String) : String := "\x7b\x7b" ++ inside ++ "\x7d\x7d"

namespace Skeleton

def reactText : String :=
  tagText "directive" ++ "export default function " ++ tagText "pascal_case name" ++
  "Page() \x7b\n  return (\n" ++
  tagText "indent body 4" ++
  "\n  );\n\x7d\n"

def vueText : String :=
  "<script setup" ++ tagText "lang" ++ ">\n// " ++ tagText "pascal_case name" ++
  "Page\n</script>\n\n<template>\n" ++
  tagText "indent body 2" ++
  "\n</template>\n"

def svelteText : String :=
  "<script" ++ tagText "lang" ++ ">\n  // " ++ tagText "pascal_case name" ++
  "Page\n</script>\n\n" ++
  tagText "body" ++
  "\n"

def angularText : String :=
  "import \x7b Component \x7d from '@angular/core';\n\n" ++
  "@Component(\x7b\n" ++
  "  selector: 'app-" ++ tagText "kebab_case name" ++ "-page',\n" ++
  "  standalone: true,\n" ++
  "  template: \x60\n" ++
  tagText "indent body 4" ++
  "\n  \x60,\n" ++
  "\x7d)\n" ++
  "export class " ++ tagText "pascal_case name" ++ "PageComponent \x7b\x7d\n"

def htmlText : String :=
  "<!DOCTYPE html>\n<html lang=\"en\"" ++ tagText "html_attrs" ++ ">\n" ++
  "<head>\n" ++
  "  <meta charset=\"UTF-8\" />\n" ++
  "  <meta name=\"viewport\" content=\"width=device-width, initial-scale=1.0\" />\n" ++
  "  <title>" ++ tagText "app_name" ++ " - " ++ tagText "title_case name" ++ "</title>\n" ++
  "  <script src=\"https://cdn.tailwindcss.com\"></script>\n" ++
  "  <script>\n" ++
  "    tailwind.config = \x7b darkMode: 'class' \x7d;\n" ++
  "  </script>\n" ++
  "  <style>\n" ++
  "    :root \x7b\n" ++
  "      --color-primary: " ++ tagText "primary" ++
  ";\n      --color-background: " ++ tagText "background" ++
  ";\n      --color-foreground: " ++ tagText "foreground" ++
  ";\n      --font-family: " ++ tagText "font_family" ++ ";\n" ++
  "    \x7d\n" ++
  "    body \x7b\n" ++
  "      font-family: var(--font-family);\n" ++
  "      background-color: var(--color-background);\n" ++
  "      color: var(--color-foreground);\n" ++
  "    \x7d\n" ++
  "  </style>\n" ++
  "</head>\n" ++
  "<body>\n" ++
  tagText "indent body 2" ++
  "\n</body>\n</html>\n"

end Skeleton

/-! ### Reading the skeletons -/

theorem toList_tagText (inside : String) :
    (tagText inside).toList = '\x7b' :: '\x7b' :: (inside.toList ++ ['\x7d', '\x7d']) := by
  rw [tagText, String.toList_append, String.toList_append]
  simp

/-- A piece that stands as a tag in the text of its template. -/
theorem Piece.source_eq {piece : Piece} {inside : String} (hinside : piece.inside = inside.toList)
    (htag : piece.source = piece.tag) : piece.source = (tagText inside).toList := by
  rw [htag, tag, hinside, toList_tagText]

namespace Skeleton

/-! What stands in the tags. -/

theorem inside_value (key : String) : (value key).inside = key.toList := rfl

theorem inside_identifier : (call "pascal_case" "name").inside = "pascal_case name".toList := rfl

theorem inside_segment : (call "kebab_case" "name").inside = "kebab_case name".toList := rfl

theorem inside_title : (call "title_case" "name").inside = "title_case name".toList := rfl

theorem inside_body_two : (indented "body" 2).inside = "indent body 2".toList := rfl

theorem inside_body_four : (indented "body" 4).inside = "indent body 4".toList := rfl

theorem source_text (content : String) : (Piece.text content).source = content.toList := rfl

theorem source_value (key : String) : (value key).source = (tagText key).toList :=
  Piece.source_eq (inside_value key) rfl

theorem toList_reactText : reactText.toList = Template.source react := by
  unfold reactText
  simp only [react, Template.source, List.flatMap_cons, List.flatMap_nil, List.append_nil,
    List.append_assoc, String.toList_append, source_text, source_value,
    Piece.source_eq inside_identifier rfl, Piece.source_eq inside_body_four rfl]

theorem toList_vueText : vueText.toList = Template.source vue := by
  unfold vueText
  simp only [vue, Template.source, List.flatMap_cons, List.flatMap_nil, List.append_nil,
    List.append_assoc, String.toList_append, source_text, source_value,
    Piece.source_eq inside_identifier rfl, Piece.source_eq inside_body_two rfl]

theorem toList_svelteText : svelteText.toList = Template.source svelte := by
  unfold svelteText
  simp only [svelte, Template.source, List.flatMap_cons, List.flatMap_nil, List.append_nil,
    List.append_assoc, String.toList_append, source_text, source_value,
    Piece.source_eq inside_identifier rfl]

theorem toList_angularText : angularText.toList = Template.source angular := by
  unfold angularText
  simp only [angular, Template.source, List.flatMap_cons, List.flatMap_nil, List.append_nil,
    List.append_assoc, String.toList_append, source_text,
    Piece.source_eq inside_segment rfl, Piece.source_eq inside_body_four rfl,
    Piece.source_eq inside_identifier rfl]

theorem toList_htmlText : htmlText.toList = Template.source html := by
  unfold htmlText
  simp only [html, Template.source, List.flatMap_cons, List.flatMap_nil, List.append_nil,
    List.append_assoc, String.toList_append, source_text, source_value,
    Piece.source_eq inside_title rfl, Piece.source_eq inside_body_two rfl]

/-! The tags are plain. -/

theorem isPlain_value {key : String} (h : key ∈ ["directive", "lang", "body", "html_attrs",
      "app_name", "primary", "background", "foreground", "font_family"]) :
    (value key).IsPlain := by
  simp only [List.mem_cons, List.not_mem_nil, or_false] at h
  rcases h with rfl | rfl | rfl | rfl | rfl | rfl | rfl | rfl | rfl <;> exact ⟨rfl, rfl⟩

theorem isPlain_name {helper : String}
    (h : helper ∈ ["pascal_case", "kebab_case", "title_case"]) :
    (call helper "name").IsPlain := by
  have hname : Template.readArguments 6 " name".toList = some [.path (.key "name")] := rfl
  simp only [List.mem_cons, List.not_mem_nil, or_false] at h
  rcases h with rfl | rfl | rfl <;>
    exact ⟨rfl, Template.readPiece_call rfl rfl hname (List.cons_ne_nil _ _)⟩

theorem isPlain_body {spaces : Nat} (h : spaces ∈ [2, 4]) : (indented "body" spaces).IsPlain := by
  have hbody : ∀ digit ∈ ['2', '4'], Template.readArgument ("body ".toList ++ [digit]) =
      some (.path (.key "body"), [' ', digit]) := by
    simp only [List.forall_mem_cons]
    exact ⟨rfl, rfl, List.forall_mem_nil _⟩
  have hspaces : Template.readArguments 7 [' ', '2'] = some [.literal (.int 2)] ∧
      Template.readArguments 7 [' ', '4'] = some [.literal (.int 4)] := ⟨rfl, rfl⟩
  simp only [List.mem_cons, List.not_mem_nil, or_false] at h
  rcases h with rfl | rfl
  · have harguments := Template.readArguments_cons rfl (hbody '2' (by decide)) hspaces.1
    exact ⟨rfl, Template.readPiece_call rfl rfl harguments (List.cons_ne_nil _ _)⟩
  · have harguments := Template.readArguments_cons rfl (hbody '4' (by decide)) hspaces.2
    exact ⟨rfl, Template.readPiece_call rfl rfl harguments (List.cons_ne_nil _ _)⟩

end Skeleton

namespace Target

/-- The skeleton of a target as a text. -/
def skeletonText : Target → String
  | react | nextjs => Skeleton.reactText
  | vue => Skeleton.vueText
  | svelte => Skeleton.svelteText
  | angular => Skeleton.angularText
  | html => Skeleton.htmlText

/-- What stands in the skeleton of a target for each of its tags. -/
def fillings (t : Target) (page : NamedBody) (setting : Setting) : List (String × String) :=
  let identifier := PageName.identifier page.name
  let body := page.body.render t.dialect
  let lang := if setting.typescript then " lang=\"ts\"" else ""
  match t with
  | react => [("directive", ""), ("pascal_case name", identifier), ("indent body 4", indent body 4)]
  | nextjs =>
    [("directive", "'use client';\n\n"), ("pascal_case name", identifier),
      ("indent body 4", indent body 4)]
  | vue => [("lang", lang), ("pascal_case name", identifier), ("indent body 2", indent body 2)]
  | svelte => [("lang", lang), ("pascal_case name", identifier), ("body", body)]
  | angular =>
    let escaped := String.ofList (escapeLiteral (escapeInterpolation body.toList))
    [("kebab_case name", PageName.segment page.name), ("pascal_case name", identifier),
      ("indent body 4", indent escaped 4)]
  | html =>
    let design := setting.design.filled
    [("html_attrs", if setting.darkMode then " class=\"dark\"" else ""),
      ("app_name", setting.appName), ("title_case name", PageName.title page.name),
      ("primary", design.palette.primary), ("background", design.palette.background),
      ("foreground", design.palette.foreground), ("font_family", design.typography.fontFamily),
      ("indent body 2", indent body 2)]

theorem toList_skeletonText (t : Target) : t.skeletonText.toList = Template.source t.skeleton := by
  cases t with
  | react | nextjs => exact Skeleton.toList_reactText
  | vue => exact Skeleton.toList_vueText
  | svelte => exact Skeleton.toList_svelteText
  | angular => exact Skeleton.toList_angularText
  | html => exact Skeleton.toList_htmlText

section Plain

open Skeleton OpensNoTag

theorem isPlain_skeleton (t : Target) : ∀ piece ∈ t.skeleton, piece.IsPlain := by
  cases t with
  | react | nextjs =>
    simp only [skeleton, Skeleton.react, List.forall_mem_cons]
    exact ⟨isPlain_value (by decide), lit rfl, isPlain_name (by decide), lit rfl,
      isPlain_body (by decide), lit rfl, List.forall_mem_nil _⟩
  | vue =>
    simp only [skeleton, Skeleton.vue, List.forall_mem_cons]
    exact ⟨lit rfl, isPlain_value (by decide), lit rfl, isPlain_name (by decide), lit rfl,
      isPlain_body (by decide), lit rfl, List.forall_mem_nil _⟩
  | svelte =>
    simp only [skeleton, Skeleton.svelte, List.forall_mem_cons]
    exact ⟨lit rfl, isPlain_value (by decide), lit rfl, isPlain_name (by decide), lit rfl,
      isPlain_value (by decide), lit rfl, List.forall_mem_nil _⟩
  | angular =>
    simp only [skeleton, Skeleton.angular, List.forall_mem_cons]
    exact ⟨append (append (lit rfl) (lit rfl)) (lit rfl), isPlain_name (by decide),
      append (append (lit rfl) (lit rfl)) (lit rfl), isPlain_body (by decide),
      append (append (lit rfl) (lit rfl)) (lit rfl), isPlain_name (by decide), lit rfl,
      List.forall_mem_nil _⟩
  | html =>
    simp only [skeleton, Skeleton.html, List.forall_mem_cons]
    refine ⟨lit rfl, isPlain_value (by decide), ?_, isPlain_value (by decide), lit rfl,
      isPlain_name (by decide), ?_, isPlain_value (by decide), lit rfl,
      isPlain_value (by decide), lit rfl, isPlain_value (by decide), lit rfl,
      isPlain_value (by decide), ?_, isPlain_body (by decide), lit rfl, List.forall_mem_nil _⟩
    -- these are written line by line
    all_goals
      repeat refine append ?_ (lit rfl)
      exact lit rfl

end Plain

/-! ### The values -/

section Values

variable {t : Target} {page : NamedBody} {setting : Setting}

theorem isFilledBy_value {key value : String}
    (hfield : (t.fields page setting).lookup key = some value)
    (hfilling : (t.fillings page setting).lookup key = some value) :
    (Skeleton.value key).IsFilledBy (t.fillings page setting) (t.data page setting) := by
  have hdata : (t.data page setting).at? [key] = some (.str value) := by
    rw [at?_data, hfield]
    rfl
  refine ⟨value, ?_, Skeleton.render_value hdata⟩
  rw [← hfilling, Skeleton.inside_value, String.ofList_toList]

theorem isFilledBy_name {name inside value : String} {helper : Helper}
    (hname : Helper.ofName? name = some helper)
    (hinside : (Skeleton.call name "name").inside = inside.toList)
    (hvalue : helper.apply [some (.str page.name)] = value)
    (hfilling : (t.fillings page setting).lookup inside = some value) :
    (Skeleton.call name "name").IsFilledBy (t.fillings page setting) (t.data page setting) := by
  have hdata : (t.data page setting).at? ["name"] = some (.str page.name) := by
    rw [at?_data, lookup_name]
    rfl
  refine ⟨value, ?_, hvalue ▸ Skeleton.render_call hdata hname⟩
  rw [← hfilling, hinside, String.ofList_toList]

theorem isFilledBy_body {spaces : Nat} {inside value : String}
    (hinside : (Skeleton.indented "body" spaces).inside = inside.toList)
    (hvalue : indent (t.bodyText page.body) spaces = value)
    (hfilling : (t.fillings page setting).lookup inside = some value) :
    (Skeleton.indented "body" spaces).IsFilledBy (t.fillings page setting)
      (t.data page setting) := by
  have hdata : (t.data page setting).at? ["body"] = some (.str (t.bodyText page.body)) := by
    rw [at?_data, lookup_body]
    rfl
  refine ⟨value, ?_, hvalue ▸ Skeleton.render_indented hdata spaces⟩
  rw [← hfilling, hinside, String.ofList_toList]

end Values

theorem isFilledBy_skeleton (t : Target) (page : NamedBody) (setting : Setting) :
    ∀ piece ∈ t.skeleton, piece.IsFilledBy (t.fillings page setting) (t.data page setting) := by
  cases t with
  | react | nextjs =>
    simp only [skeleton, Skeleton.react, List.forall_mem_cons]
    exact ⟨isFilledBy_value rfl rfl, trivial,
      isFilledBy_name rfl Skeleton.inside_identifier rfl rfl, trivial,
      isFilledBy_body Skeleton.inside_body_four rfl rfl, trivial, List.forall_mem_nil _⟩
  | vue =>
    simp only [skeleton, Skeleton.vue, List.forall_mem_cons]
    exact ⟨trivial, isFilledBy_value rfl rfl, trivial,
      isFilledBy_name rfl Skeleton.inside_identifier rfl rfl, trivial,
      isFilledBy_body Skeleton.inside_body_two rfl rfl, trivial, List.forall_mem_nil _⟩
  | svelte =>
    simp only [skeleton, Skeleton.svelte, List.forall_mem_cons]
    exact ⟨trivial, isFilledBy_value rfl rfl, trivial,
      isFilledBy_name rfl Skeleton.inside_identifier rfl rfl, trivial,
      isFilledBy_value rfl rfl, trivial, List.forall_mem_nil _⟩
  | angular =>
    simp only [skeleton, Skeleton.angular, List.forall_mem_cons]
    exact ⟨trivial, isFilledBy_name rfl Skeleton.inside_segment rfl rfl, trivial,
      isFilledBy_body Skeleton.inside_body_four rfl rfl, trivial,
      isFilledBy_name rfl Skeleton.inside_identifier rfl rfl, trivial, List.forall_mem_nil _⟩
  | html =>
    simp only [skeleton, Skeleton.html, List.forall_mem_cons]
    exact ⟨trivial, isFilledBy_value rfl rfl, trivial, isFilledBy_value rfl rfl, trivial,
      isFilledBy_name rfl Skeleton.inside_title rfl rfl, trivial,
      isFilledBy_value rfl rfl, trivial, isFilledBy_value rfl rfl, trivial,
      isFilledBy_value rfl rfl, trivial, isFilledBy_value rfl rfl, trivial,
      isFilledBy_body Skeleton.inside_body_two rfl rfl, trivial, List.forall_mem_nil _⟩

/-! ### Files -/

/-- The extension of a file with types is the one of its target. -/
theorem fileExtension_true (t : Target) : t.fileExtension true = t.extension := by
  cases t <;> rfl

/-- The file is the skeleton of its target with the values in the places of the tags. -/
theorem exists_fill (t : Target) (page : NamedBody) (setting : Setting) :
    ∃ content,
      t.assemble page setting =
        .ok ⟨filePath page.name t.pathSuffix (t.fileExtension setting.typescript), content⟩ ∧
      (Template.ofText t.skeletonText >>= (·.render (t.data page setting))) = .ok content ∧
      fill (t.fillings page setting) t.skeletonText = some content := by
  obtain ⟨cs, hrender, hfill⟩ :=
    exists_fillFrom_source t.isPlain_skeleton (t.isFilledBy_skeleton page setting)
  obtain ⟨read, hread, hsame⟩ := Template.exists_ofText t.isPlain_skeleton t.toList_skeletonText
  refine ⟨String.ofList cs, assemble_eq hrender, ?_, ?_⟩
  · calc (Template.ofText t.skeletonText >>= (·.render (t.data page setting)))
        = read.render (t.data page setting) := by rw [hread]; rfl
      _ = t.skeleton.render (t.data page setting) := hsame _
      _ = .ok (String.ofList cs) := by rw [Template.render, hrender]; rfl
  · rw [fill, toList_skeletonText, hfill]
    rfl

theorem fillings_congr {t : Target} {page other : NamedBody} {setting : Setting} {design : Design}
    (hidentifier : PageName.identifier other.name = PageName.identifier page.name)
    (hsegment : PageName.segment other.name = PageName.segment page.name)
    (htitle : PageName.title other.name = PageName.title page.name)
    (hbody : other.body.render t.dialect = page.body.render t.dialect)
    (hdesign : t = html → design.filled = setting.design.filled) :
    t.fillings other { setting with design } = t.fillings page setting := by
  cases t with
  | html => simp only [fillings, htitle, hbody, hdesign rfl]
  | _ => simp only [fillings, hidentifier, hsegment, hbody]

/-- Behind the directive two components are alike. -/
theorem assemble_nextjs (page : NamedBody) (setting : Setting) :
    ∃ file, react.assemble page setting = .ok file ∧
      nextjs.assemble page setting =
        .ok { file with content := "'use client';\n\n" ++ file.content } := by
  have hserved : ∀ piece ∈ Skeleton.react.tail, ∃ cs,
      piece.render (react.data page setting) = .ok cs := fun piece hpiece =>
    react.exists_render_skeleton page setting piece (List.mem_of_mem_tail hpiece)
  obtain ⟨back, hback⟩ := Template.exists_renderChars hserved
  have hnextjs : Template.renderChars (nextjs.data page setting) Skeleton.react.tail =
      .ok back := by
    rw [← hback]
    refine Template.renderChars_congr fun piece hpiece p hp => ?_
    have hkey : p.keys = ["name"] ∨ p.keys = ["body"] := by
      have hkeys : ∀ piece ∈ Skeleton.react.tail, ∀ p ∈ piece.paths,
          p.keys = ["name"] ∨ p.keys = ["body"] := by decide
      exact hkeys piece hpiece p hp
    rcases hkey with hkey | hkey
    · rw [hkey, at?_data, at?_data, lookup_name, lookup_name]
    · rw [hkey, at?_data, at?_data, lookup_body, lookup_body]
      rfl
  have hdirective : ∀ t : Target, t = react ∨ t = nextjs →
      (Skeleton.value "directive").render (t.data page setting) = .ok t.directive.toList := by
    rintro t (rfl | rfl) <;> exact Skeleton.render_value (at?_data _ _ _ _)
  have hreact := assemble_eq (Template.renderChars_cons (hdirective react (.inl rfl)) hback)
  refine ⟨_, hreact, ?_⟩
  rw [assemble_eq (Template.renderChars_cons (hdirective nextjs (.inr rfl)) hnextjs),
    String.ofList_append, String.ofList_append, String.ofList_toList, String.ofList_toList]
  have hempty : react.directive ++ String.ofList back = String.ofList back := String.empty_append
  rw [hempty]
  rfl

end Target

/-- Each target makes a file of every page: its skeleton, read as a template and rendered with the
values of the page, which is the text of the skeleton with the values in the places of its tags. So
the file depends on the name by the forms that it is shown in, on the body by its text in the
dialect of the target, and on the design in a document only, filled; the files of two targets differ
in a directive in front; and with types the path has the extension of the target. -/
theorem assemble_filled (page : NamedBody) (setting : Setting) :
    (∀ t : Target, ∃ content,
      t.assemble page setting =
        .ok ⟨filePath page.name t.pathSuffix (t.fileExtension setting.typescript), content⟩ ∧
      (Template.ofText t.skeletonText >>= (·.render (t.data page setting))) = .ok content ∧
      fill (t.fillings page setting) t.skeletonText = some content) ∧
    (∀ (t : Target) (other : NamedBody) (design : Design),
      PageName.identifier other.name = PageName.identifier page.name →
      PageName.segment other.name = PageName.segment page.name →
      PageName.title other.name = PageName.title page.name →
      other.body.render t.dialect = page.body.render t.dialect →
      (t = .html → design.filled = setting.design.filled) →
      t.assemble other { setting with design } = t.assemble page setting) ∧
    (∃ file, Target.react.assemble page setting = .ok file ∧
      Target.nextjs.assemble page setting =
        .ok { file with content := "'use client';\n\n" ++ file.content }) ∧
    ∀ (t : Target) (file : File), setting.typescript = true → t.assemble page setting = .ok file →
      file.path = "pages/" ++ PageName.segment page.name ++
        (if t = .angular then "-page" else "") ++ "." ++ t.extension := by
  refine ⟨fun t => t.exists_fill page setting, ?_, Target.assemble_nextjs page setting, ?_⟩
  · intro t other design hidentifier hsegment htitle hbody hdesign
    obtain ⟨content, hassemble, -, hfill⟩ := t.exists_fill page setting
    obtain ⟨content', hassemble', -, hfill'⟩ := t.exists_fill other { setting with design }
    rw [Target.fillings_congr hidentifier hsegment htitle hbody hdesign, hfill] at hfill'
    rw [hassemble, hassemble', Option.some.inj hfill', filePath, filePath, hsegment]
  · intro t file htypescript hfile
    obtain ⟨content, hassemble, -⟩ := t.exists_fill page setting
    rw [hassemble, htypescript, Target.fileExtension_true] at hfile
    cases hfile
    cases t <;> rfl

/-- A body that looks like a tag is shown as it is. -/
theorem assemble_filled_braces :
    let page : NamedBody := ⟨"crud_table", .markup "<p>\x7b\x7bbody\x7d\x7d</p>"⟩
    let setting : Setting := ⟨"Acme", false, {}, true⟩
    Target.svelte.assemble page setting = .ok ⟨"pages/crud-table.svelte",
      "<script lang=\"ts\">\n  // CrudTablePage\n</script>\n\n<p>\x7b\x7bbody\x7d\x7d</p>\n"⟩ ∧
    Target.svelte.assemble ⟨"CrudTable", page.body⟩ setting =
      Target.svelte.assemble page setting ∧
    ∀ file, Target.angular.assemble page setting = .ok file →
      file.path = "pages/crud-table-page.component.ts" := by
  intro page setting
  obtain ⟨hfilled, hcongr, -, hpath⟩ := assemble_filled page setting
  refine ⟨?_, ?_, ?_⟩
  · obtain ⟨content, hassemble, -, hfill⟩ := hfilled .svelte
    have hcontent : fill (Target.svelte.fillings page setting) Target.svelte.skeletonText =
        some "<script lang=\"ts\">\n  // CrudTablePage\n</script>\n\n<p>\x7b\x7bbody\x7d\x7d</p>\n" := by
      decide +kernel
    have hsegment : PageName.segment "crud_table" = "crud-table" := by decide +kernel
    rw [hcontent] at hfill
    rw [hassemble, ← Option.some.inj hfill, filePath, hsegment]
    rfl
  · have hforms : PageName.identifier "CrudTable" = PageName.identifier "crud_table" ∧
        PageName.segment "CrudTable" = PageName.segment "crud_table" ∧
        PageName.title "CrudTable" = PageName.title "crud_table" := by decide +kernel
    obtain ⟨hidentifier, hsegment, htitle⟩ := hforms
    exact hcongr .svelte ⟨"CrudTable", page.body⟩ {} hidentifier hsegment htitle rfl
      (fun h => nomatch h)
  · intro file hfile
    have hsegment : PageName.segment "crud_table" = "crud-table" := by decide +kernel
    rw [hpath .angular file rfl hfile, hsegment]
    rfl

end Scaffold
