import Scaffold.Page.Widget
import Scaffold.PageName

/-!
# Pages without content

What is shown in the place of a page that is not there.
-/

/-! ### The page for what is not found -/

namespace Scaffold.Page.NotFound

def wayBack (look : Look) : Element :=
  element "a"
    |>.attr "href" "/"
    |>.classes ("inline-flex items-center gap-2 rounded-md bg-indigo-600 px-4 py-2 text-sm " ++
      "font-semibold text-white hover:bg-indigo-500")
    |>.text ("Back to " ++ look.appName)
    |>.child (Widget.icon Icon.arrowRight "h-4 w-4")

def body (look : Look) : Node :=
  Widget.shell look [
    element "main"
      |>.classes
        "flex min-h-screen flex-col items-center justify-center px-6 py-24 text-center"
      |>.child (element "p"
        |>.classes "text-base font-semibold text-indigo-600"
        |>.text "404")
      |>.child (element "h1"
        |>.classes "mt-4 text-4xl font-bold tracking-tight sm:text-5xl"
        |>.text "Page not found")
      |>.child (element "p"
        |>.classes (look.classes "mt-6 text-base leading-7 text-gray-600" "dark:text-gray-400")
        |>.text "Sorry, we could not find the page you are looking for.")
      |>.child (element "div"
        |>.classes "mt-10 flex items-center justify-center gap-6"
        |>.child (wayBack look)
        |>.child (element "a"
          |>.attr "href" "#"
          |>.classes (look.classes "text-sm font-semibold text-gray-900" "dark:text-white")
          |>.text "Contact support"))]

end Scaffold.Page.NotFound

/-! ### The page for a name without a body -/

namespace Scaffold.Page

/-- A page that shows the name it was asked for, so that a slip in the name is seen. -/
def placeholder (name : String) (look : Look) : Node :=
  Widget.shell look [
    element "main"
      |>.classes "mx-auto max-w-3xl px-6 py-24 text-center"
      |>.child (element "h1"
        |>.classes "text-2xl font-bold tracking-tight"
        |>.text (PageName.title name))
      |>.child (element "p"
        |>.classes (look.classes "mt-4 text-gray-600" "dark:text-gray-400")
        |>.text ("Template \"" ++ name ++ "\" is not available in " ++ look.appName ++ "."))]

end Scaffold.Page
