import Scaffold.Design
import Scaffold.Markup.Printer
import Scaffold.Markup.Rule
import Scaffold.Template.Basic

/-!
# Assembling files

For each target a skeleton, into which go the name of the page, its body in the dialect of the
target, and what else the target shows. Nothing else of the page is looked at.
-/

namespace Scaffold

/-- A page body: a tree, or a text in the neutral dialect. -/
inductive Body where
  | tree (node : Node)
  | markup (text : String)

def Body.render (dialect : Dialect) : Body → String
  | .tree node => node.render dialect
  | .markup text => dialect.respell text

structure NamedBody where
  /-- What identifiers and the path are made from. -/
  name : String
  body : Body

/-- What a file shows besides its page. -/
structure Setting where
  appName : String
  darkMode : Bool
  design : Design
  typescript : Bool

structure File where
  path : String
  content : String
  deriving DecidableEq, Repr

/-- The path of a page: one file in the folder of pages. -/
def filePath (name suffix extension : String) : String :=
  "pages/" ++ PageName.segment name ++ suffix ++ "." ++ extension

/-! ### Skeletons -/

namespace Skeleton

def value (key : String) : Piece := .value (.key key)

def call (helper key : String) : Piece := .call helper [.path (.key key)]

def indented (key : String) (spaces : Nat) : Piece :=
  .call "indent" [.path (.key key), .literal (.int spaces)]

/-- A function component. -/
def react : Template := [
  value "directive",
  .text "export default function ",
  call "pascal_case" "name",
  .text "Page() \x7b\n  return (\n",
  indented "body" 4,
  .text "\n  );\n\x7d\n"]

/-- A single-file component: an empty script and the template. -/
def vue : Template := [
  .text "<script setup",
  value "lang",
  .text ">\n// ",
  call "pascal_case" "name",
  .text "Page\n</script>\n\n<template>\n",
  indented "body" 2,
  .text "\n</template>\n"]

/-- An empty script and the markup behind it. -/
def svelte : Template := [
  .text "<script",
  value "lang",
  .text ">\n  // ",
  call "pascal_case" "name",
  .text "Page\n</script>\n\n",
  value "body",
  .text "\n"]

/-- A component class whose decorator holds the template as a literal. -/
def angular : Template := [
  .text ("import \x7b Component \x7d from '@angular/core';\n\n" ++
    "@Component(\x7b\n" ++
    "  selector: 'app-"),
  call "kebab_case" "name",
  .text ("-page',\n" ++
    "  standalone: true,\n" ++
    "  template: \x60\n"),
  indented "body" 4,
  .text ("\n  \x60,\n" ++
    "\x7d)\n" ++
    "export class "),
  call "pascal_case" "name",
  .text "PageComponent \x7b\x7d\n"]

/-- A whole document, with the design as custom properties of its root. -/
def html : Template := [
  .text "<!DOCTYPE html>\n<html lang=\"en\"",
  value "html_attrs",
  .text (">\n" ++
    "<head>\n" ++
    "  <meta charset=\"UTF-8\" />\n" ++
    "  <meta name=\"viewport\" content=\"width=device-width, initial-scale=1.0\" />\n" ++
    "  <title>"),
  value "app_name",
  .text " - ",
  call "title_case" "name",
  .text ("</title>\n" ++
    "  <script src=\"https://cdn.tailwindcss.com\"></script>\n" ++
    "  <script>\n" ++
    "    tailwind.config = \x7b darkMode: 'class' \x7d;\n" ++
    "  </script>\n" ++
    "  <style>\n" ++
    "    :root \x7b\n" ++
    "      --color-primary: "),
  value "primary",
  .text ";\n      --color-background: ",
  value "background",
  .text ";\n      --color-foreground: ",
  value "foreground",
  .text ";\n      --font-family: ",
  value "font_family",
  .text (";\n" ++
    "    \x7d\n" ++
    "    body \x7b\n" ++
    "      font-family: var(--font-family);\n" ++
    "      background-color: var(--color-background);\n" ++
    "      color: var(--color-foreground);\n" ++
    "    \x7d\n" ++
    "  </style>\n" ++
    "</head>\n" ++
    "<body>\n"),
  indented "body" 2,
  .text "\n</body>\n</html>\n"]

end Skeleton

/-! ### Escaping a literal template -/

/-- Escapes a text for the inside of a template literal: backslashes first, so that those which are
put before backquotes and placeholders stay single. -/
def escapeLiteral (cs : List Char) : List Char :=
  Text.replaceAll ['$', '\x7b'] ['\\', '$', '\x7b']
    (Text.replaceAll ['\x60'] ['\\', '\x60'] (Text.replaceAll ['\\'] ['\\', '\\'] cs))

/-- The entity of a character that a template would take for its own: an at sign starts a block, a
brace an interpolation. -/
def templateEntity (c : Char) : List Char :=
  match c with
  | '@' => "&#64;".toList
  | '\x7b' => "&#123;".toList
  | '\x7d' => "&#125;".toList
  | _ => [c]

def escapeInterpolation (cs : List Char) : List Char := cs.flatMap templateEntity

/-! ### The targets -/

namespace Target

def skeleton : Target → Template
  | react | nextjs => Skeleton.react
  | vue => Skeleton.vue
  | angular => Skeleton.angular
  | svelte => Skeleton.svelte
  | html => Skeleton.html

/-- What is put before the component of a target. -/
def directive : Target → String
  | nextjs => "'use client';\n\n"
  | _ => ""

/-- The attribute of a script with types. -/
def scriptLang (typescript : Bool) : String := if typescript then " lang=\"ts\"" else ""

/-- The attribute of a document in the dark. -/
def documentClass (darkMode : Bool) : String := if darkMode then " class=\"dark\"" else ""

/-- The body of a page as the target shows it. -/
def bodyText (t : Target) (body : Body) : String :=
  match t with
  | react | nextjs => body.render .jsx
  | vue | svelte | html => body.render .html
  | angular => String.ofList (escapeLiteral (escapeInterpolation (body.render .html).toList))

/-- What the skeleton of a target is filled with. -/
def fields (t : Target) (page : NamedBody) (setting : Setting) : List (String × String) :=
  let name := ("name", page.name)
  let body := ("body", t.bodyText page.body)
  match t with
  | react | nextjs => [("directive", t.directive), name, body]
  | vue | svelte => [("lang", scriptLang setting.typescript), name, body]
  | angular => [name, body]
  | html =>
    let design := setting.design.filled
    [("html_attrs", documentClass setting.darkMode), ("app_name", setting.appName), name,
      ("primary", design.palette.primary), ("background", design.palette.background),
      ("foreground", design.palette.foreground), ("font_family", design.typography.fontFamily),
      body]

/-- What is put behind the name of a page in its path. -/
def pathSuffix : Target → String
  | angular => "-page"
  | _ => ""

/-- The extension of a file, with types or without where there is a choice. -/
def fileExtension (t : Target) (typescript : Bool) : String :=
  match t with
  | react | nextjs => if typescript then "tsx" else "jsx"
  | vue => "vue"
  | angular => "component.ts"
  | svelte => "svelte"
  | html => "html"

/-- The file of a page. -/
def assemble (t : Target) (page : NamedBody) (setting : Setting) : Except TemplateError File := do
  let fields := (t.fields page setting).map fun (key, text) => (key, Json.str text)
  let content ← t.skeleton.render (.ofMembers fields)
  return ⟨filePath page.name t.pathSuffix (t.fileExtension setting.typescript), content⟩

end Target

end Scaffold
