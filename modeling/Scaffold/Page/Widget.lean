import Scaffold.Markup.Element
import Scaffold.Page.Look
import Scaffold.Page.Icon
import Scaffold.Text.Space

/-!
# Page pieces

Every page is put together from these pieces, so all pages share one layout: a shell of full
height, one column of content, and the same headings, buttons, cards and form fields.
-/

namespace Scaffold.Widget

def icon (path size : String) : Element :=
  element "svg"
    |>.classes size
    |>.attr "fill" "none"
    |>.attr "viewBox" "0 0 24 24"
    |>.attr "stroke" "currentColor"
    |>.attr "aria-hidden" "true"
    |>.child (element "path" |>.stroke "2" |>.attr "d" path)

/-- What every page is inside of. -/
def shell (look : Look) (children : List Node) : Element :=
  element "div"
    |>.classes (look.classes "min-h-screen bg-white text-gray-900 antialiased"
      "dark:bg-gray-950 dark:text-gray-100")
    |>.append children

/-- The centred column of content. -/
def container : Element := element "div" |>.classes "mx-auto max-w-7xl px-6 lg:px-8"

/-- The name of the application as its brand mark. -/
def brand (look : Look) : Element :=
  element "a"
    |>.attr "href" "/"
    |>.classes "text-xl font-bold tracking-tight text-indigo-600"
    |>.text look.appName

def primaryButton (look : Look) (label : String) : Element :=
  element "button"
    |>.attr "type" "button"
    |>.classes (look.classes
      ("inline-flex items-center justify-center rounded-md bg-indigo-600 px-4 py-2 text-sm " ++
        "font-semibold text-white shadow-sm hover:bg-indigo-500 focus:outline-none focus:ring-2 " ++
        "focus:ring-indigo-500 focus:ring-offset-2")
      "dark:bg-indigo-500 dark:hover:bg-indigo-400 dark:focus:ring-offset-gray-950")
    |>.text label

def secondaryButton (look : Look) (label : String) : Element :=
  element "button"
    |>.attr "type" "button"
    |>.classes (look.classes
      ("inline-flex items-center justify-center rounded-md border border-gray-300 bg-white px-4 " ++
        "py-2 text-sm font-semibold text-gray-700 shadow-sm hover:bg-gray-50")
      "dark:border-gray-700 dark:bg-gray-900 dark:text-gray-200 dark:hover:bg-gray-800")
    |>.text label

/-- The bar on top of a page: brand, links and one button. -/
def header (look : Look) (links : List String) : Element :=
  let link (label : String) :=
    element "a"
      |>.attr "href" "#"
      |>.classes (look.classes "text-sm font-medium text-gray-600 hover:text-gray-900"
        "dark:text-gray-300 dark:hover:text-white")
      |>.text label
  element "header"
    |>.classes (look.classes "border-b border-gray-200" "dark:border-gray-800")
    |>.child (container
      |>.child (element "div"
        |>.classes "flex h-16 items-center justify-between"
        |>.child (brand look)
        |>.child (element "nav" |>.classes "hidden gap-8 md:flex" |>.elements (links.map link))
        |>.child (primaryButton look "Get started")))

def footer (look : Look) : Element :=
  element "footer"
    |>.classes (look.classes "border-t border-gray-200" "dark:border-gray-800")
    |>.child (container
      |>.child (element "p"
        |>.classes (look.classes "py-8 text-center text-sm text-gray-500" "dark:text-gray-400")
        |>.text ("© " ++ look.appName ++ ". All rights reserved.")))

/-- The heading of a section: a line above it, a title and a lead. -/
def heading (look : Look) (eyebrow title lead : String) : Element :=
  element "div"
    |>.classes "mx-auto max-w-2xl text-center"
    |>.child (element "p"
      |>.classes "text-sm font-semibold uppercase tracking-wide text-indigo-600"
      |>.text eyebrow)
    |>.child (element "h2"
      |>.classes "mt-2 text-3xl font-bold tracking-tight sm:text-4xl"
      |>.text title)
    |>.child (element "p"
      |>.classes (look.classes "mt-4 text-lg text-gray-600" "dark:text-gray-300")
      |>.text lead)

/-- A card with classes for its layout. -/
def styledCard (look : Look) (extra : String) : Element :=
  let base := "rounded-xl border border-gray-200 bg-white p-6 shadow-sm " ++ extra
  element "div"
    |>.classes (look.classes (String.ofList (Text.trimEnd base.toList))
      "dark:border-gray-800 dark:bg-gray-900")

def card (look : Look) : Element := styledCard look ""

/-- A form field under its label. -/
def field (look : Look) (id label kind placeholder : String) : Element :=
  element "div"
    |>.child (element "label"
      |>.labelFor id
      |>.classes (look.classes "block text-sm font-medium text-gray-700" "dark:text-gray-200")
      |>.text label)
    |>.child (element "input"
      |>.attr "id" id
      |>.attr "name" id
      |>.attr "type" kind
      |>.attr "placeholder" placeholder
      |>.classes (look.classes
        ("mt-1 block w-full rounded-md border border-gray-300 px-3 py-2 text-sm shadow-sm " ++
          "focus:border-indigo-500 focus:outline-none focus:ring-1 focus:ring-indigo-500")
        "dark:border-gray-700 dark:bg-gray-900 dark:text-white")
      |>.flag "required")

/-- A box to tick before its label. -/
def checkbox (look : Look) (id label : String) : Element :=
  element "div"
    |>.classes "flex items-center gap-2"
    |>.child (element "input"
      |>.attr "id" id
      |>.attr "name" id
      |>.attr "type" "checkbox"
      |>.classes "h-4 w-4 rounded border-gray-300 text-indigo-600 focus:ring-indigo-500")
    |>.child (element "label"
      |>.labelFor id
      |>.classes (look.classes "text-sm text-gray-600" "dark:text-gray-300")
      |>.text label)

/-- A small pill that tells a status. -/
def badge (label tone : String) : Element :=
  element "span"
    |>.classes
      ("inline-flex items-center rounded-full px-2.5 py-0.5 text-xs font-medium " ++ tone)
    |>.text label

/-- An item of a list, behind a check mark. -/
def tickedItem (look : Look) (label : String) : Element :=
  element "li"
    |>.classes "flex items-start gap-3"
    |>.child (icon Icon.check "h-5 w-5 flex-none text-indigo-600")
    |>.child (element "span"
      |>.classes (look.classes "text-sm text-gray-600" "dark:text-gray-300")
      |>.text label)

end Scaffold.Widget
