import Scaffold.Page.Widget

/-!
# Pages about an account

Signing in and signing up, the steps after it, and the settings.
-/

/-! ### Signing in and signing up

Two forms in one frame, each with a way to the other.
-/

namespace Scaffold.Page.Auth

def frame (look : Look) (title lead : String) (form prompt : Element) : Node :=
  Widget.shell look [
    element "main"
      |>.classes "flex min-h-screen flex-col items-center justify-center px-6 py-12"
      |>.child (element "div"
        |>.classes "w-full max-w-md"
        |>.child (element "div" |>.classes "text-center" |>.child (Widget.brand look))
        |>.child (element "h1"
          |>.classes "mt-6 text-center text-2xl font-bold tracking-tight"
          |>.text title)
        |>.child (element "p"
          |>.classes (look.classes "mt-2 text-center text-sm text-gray-600" "dark:text-gray-400")
          |>.text lead)
        |>.child (Widget.styledCard look "mt-8" |>.child form)
        |>.child prompt)]

def sendButton (label : String) : Element :=
  element "button"
    |>.attr "type" "submit"
    |>.classes
      ("flex w-full justify-center rounded-md bg-indigo-600 px-4 py-2 text-sm font-semibold " ++
        "text-white shadow-sm hover:bg-indigo-500 focus:outline-none focus:ring-2 " ++
        "focus:ring-indigo-500 focus:ring-offset-2")
    |>.text label

/-- The question that leads to the other form. -/
def crossLink (look : Look) (question link href : String) : Element :=
  element "p"
    |>.classes (look.classes "mt-6 text-center text-sm text-gray-600" "dark:text-gray-400")
    |>.text (question ++ " ")
    |>.child (element "a"
      |>.attr "href" href
      |>.classes "font-semibold text-indigo-600 hover:text-indigo-500"
      |>.text link)

def bareForm : Element :=
  element "form" |>.classes "space-y-6" |>.attr "action" "#" |>.attr "method" "post"

def loginForm (look : Look) : Element :=
  bareForm
    |>.child (Widget.field look "email" "Email address" "email" "you@example.com")
    |>.child (Widget.field look "password" "Password" "password" "••••••••")
    |>.child (element "div"
      |>.classes "flex items-center justify-between"
      |>.child (Widget.checkbox look "remember" "Remember me")
      |>.child (element "a"
        |>.attr "href" "#"
        |>.classes "text-sm font-medium text-indigo-600 hover:text-indigo-500"
        |>.text "Forgot password?"))
    |>.child (sendButton "Sign in")

def login (look : Look) : Node :=
  frame look ("Sign in to " ++ look.appName) "Welcome back. Enter your details to continue."
    (loginForm look) (crossLink look "Not a member?" "Create an account" "/signup")

def signupForm (look : Look) : Element :=
  bareForm
    |>.child (Widget.field look "name" "Full name" "text" "Jane Cooper")
    |>.child (Widget.field look "email" "Email address" "email" "you@example.com")
    |>.child (Widget.field look "password" "Password" "password" "At least 8 characters")
    |>.child (Widget.field look "confirm-password" "Confirm password" "password"
      "Repeat your password")
    |>.child (Widget.checkbox look "terms" "I agree to the terms of service and privacy policy")
    |>.child (sendButton "Create account")

def signup (look : Look) : Node :=
  frame look ("Create your " ++ look.appName ++ " account")
    "Start your free 14-day trial. No credit card required."
    (signupForm look) (crossLink look "Already have an account?" "Sign in" "/login")

end Scaffold.Page.Auth

/-! ### The onboarding page

A form in several steps, shown on its second one.
-/

namespace Scaffold.Page.Onboarding

/-- Where a step stands to the one that is shown. -/
inductive Progress where
  | done
  | current
  | ahead
  deriving DecidableEq

structure Step where
  number : String
  label : String
  progress : Progress

def currentLabel : String := "Set up workspace"

def steps : List Step := [
  ⟨"1", "Create account", .done⟩,
  ⟨"2", currentLabel, .current⟩,
  ⟨"3", "Invite team", .ahead⟩]

def sizes : List String := ["Just me", "2 to 10", "11 to 50", "More than 50"]

def marker (look : Look) (step : Step) : Element :=
  match step.progress with
  | .done =>
    element "span"
      |>.classes "flex h-8 w-8 items-center justify-center rounded-full bg-indigo-600 text-white"
      |>.child (Widget.icon Icon.check "h-4 w-4")
  | .current =>
    element "span"
      |>.classes ("flex h-8 w-8 items-center justify-center rounded-full border-2 " ++
        "border-indigo-600 text-sm font-semibold text-indigo-600")
      |>.text step.number
  | .ahead =>
    element "span"
      |>.classes (look.classes
        ("flex h-8 w-8 items-center justify-center rounded-full border-2 border-gray-300 " ++
          "text-sm text-gray-500")
        "dark:border-gray-700 dark:text-gray-400")
      |>.text step.number

def stepItem (look : Look) (step : Step) : Element :=
  let item :=
    element "li"
      |>.classes "flex items-center gap-3"
      |>.child (marker look step)
      |>.child (element "span" |>.classes "text-sm font-medium" |>.text step.label)
  if step.progress = .current then item.attr "aria-current" "step" else item

def sizeField (look : Look) : Element :=
  let choice (size : String) := element "option" |>.attr "value" size |>.text size
  element "div"
    |>.child (element "label"
      |>.labelFor "team-size"
      |>.classes (look.classes "block text-sm font-medium text-gray-700" "dark:text-gray-200")
      |>.text "Team size")
    |>.child (element "select"
      |>.attr "id" "team-size"
      |>.attr "name" "team-size"
      |>.classes (look.classes
        ("mt-1 block w-full rounded-md border border-gray-300 px-3 py-2 text-sm " ++
          "focus:border-indigo-500 focus:outline-none focus:ring-1 focus:ring-indigo-500")
        "dark:border-gray-700 dark:bg-gray-900")
      |>.elements (sizes.map choice))

def form (look : Look) : Element :=
  element "form"
    |>.classes "space-y-6"
    |>.child (Widget.field look "workspace" "Workspace name" "text" "Acme Inc")
    |>.child (sizeField look)
    |>.child (element "div"
      |>.classes "flex items-center justify-between pt-4"
      |>.child (Widget.secondaryButton look "Back")
      |>.child (Widget.primaryButton look "Continue"))

def body (look : Look) : Node :=
  Widget.shell look [
    element "main"
      |>.classes "mx-auto max-w-2xl px-6 py-16"
      |>.child (Widget.brand look)
      |>.child (element "h1"
        |>.classes "mt-8 text-3xl font-bold tracking-tight"
        |>.text ("Welcome to " ++ look.appName))
      |>.child (element "p"
        |>.classes (look.classes "mt-2 text-gray-600" "dark:text-gray-400")
        |>.text "A few quick steps and your workspace will be ready.")
      |>.comment "Progress"
      |>.child (element "ol"
        |>.classes "mt-10 flex flex-col gap-4 sm:flex-row sm:gap-8"
        |>.elements (steps.map (stepItem look)))
      |>.child (Widget.styledCard look "mt-10"
        |>.child (element "h2" |>.classes "text-lg font-semibold" |>.text currentLabel)
        |>.child (form look))]

end Scaffold.Page.Onboarding

/-! ### The settings page

Three sections: a profile form, notification boxes and the danger zone.
-/

namespace Scaffold.Page.Settings

/-- The boxes to tick, by identifier and label. -/
def notifications : List (String × String) := [
  ("notify-comments", "Email me when someone comments on my work"),
  ("notify-mentions", "Email me when I am mentioned"),
  ("notify-digest", "Send me a weekly product digest")]

/-- A title and lead on the left, the content on the right. -/
def panel (look : Look) (title lead : String) (content : Element) : Element :=
  element "section"
    |>.classes (look.classes "grid gap-6 border-b border-gray-200 py-10 md:grid-cols-3"
      "dark:border-gray-800")
    |>.child (element "div"
      |>.child (element "h2" |>.classes "text-base font-semibold" |>.text title)
      |>.child (element "p"
        |>.classes (look.classes "mt-1 text-sm text-gray-500" "dark:text-gray-400")
        |>.text lead))
    |>.child (element "div" |>.classes "md:col-span-2" |>.child content)

def profile (look : Look) : Element :=
  element "form"
    |>.classes "space-y-6"
    |>.child (element "div"
      |>.classes "grid gap-6 sm:grid-cols-2"
      |>.child (Widget.field look "first-name" "First name" "text" "Jane")
      |>.child (Widget.field look "last-name" "Last name" "text" "Cooper"))
    |>.child (Widget.field look "email" "Email address" "email" "jane@example.com")
    |>.child (element "div"
      |>.classes "flex justify-end"
      |>.child (Widget.primaryButton look "Save changes"))

def notificationBoxes (look : Look) : Element :=
  element "fieldset"
    |>.classes "space-y-4"
    |>.child (element "legend" |>.classes "sr-only" |>.text "Notifications")
    |>.elements (notifications.map fun (id, label) => Widget.checkbox look id label)

def dangerZone (look : Look) : Element :=
  element "div"
    |>.classes (look.classes "rounded-lg border border-red-200 bg-red-50 p-4"
      "dark:border-red-900 dark:bg-red-950")
    |>.child (element "p"
      |>.classes (look.classes "text-sm text-red-700" "dark:text-red-300")
      |>.text "Deleting your account removes all projects and data permanently.")
    |>.child (element "button"
      |>.attr "type" "button"
      |>.classes ("mt-4 rounded-md bg-red-600 px-4 py-2 text-sm font-semibold text-white " ++
        "hover:bg-red-500")
      |>.text "Delete account")

def body (look : Look) : Node :=
  Widget.shell look [
    Widget.header look ["Dashboard", "Projects", "Settings"],
    element "main"
      |>.classes "mx-auto max-w-5xl px-6 py-12"
      |>.child (element "h1" |>.classes "text-3xl font-bold tracking-tight" |>.text "Settings")
      |>.child (element "p"
        |>.classes (look.classes "mt-2 text-sm text-gray-600" "dark:text-gray-400")
        |>.text ("Manage your " ++ look.appName ++ " account and preferences."))
      |>.comment "Profile"
      |>.child (panel look "Profile" "This information is visible to your teammates."
        (profile look))
      |>.comment "Notifications"
      |>.child (panel look "Notifications" "Choose what we contact you about."
        (notificationBoxes look))
      |>.comment "Danger zone"
      |>.child (panel look "Danger zone" "Irreversible and destructive actions."
        (dangerZone look))]

end Scaffold.Page.Settings
