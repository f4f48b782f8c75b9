import Scaffold.Page.Widget

/-!
# Pages to work on

The dashboard and the table of records.
-/

/-! ### The dashboard

A sidebar, four figures, a chart and the latest activity.
-/

namespace Scaffold.Page.Dashboard

structure NavItem where
  icon : String
  label : String
  /-- The page that is shown. -/
  current : Bool

def navItems : List NavItem := [
  ⟨Icon.home, "Overview", true⟩,
  ⟨Icon.chart, "Reports", false⟩,
  ⟨Icon.users, "Customers", false⟩,
  ⟨Icon.cog, "Settings", false⟩]

structure Stat where
  label : String
  value : String
  delta : String
  falling : Bool

def stats : List Stat := [
  ⟨"Total revenue", "$48,290", "+12.5%", false⟩,
  ⟨"Active users", "2,841", "+4.1%", false⟩,
  ⟨"Conversion rate", "3.6%", "+0.8%", false⟩,
  ⟨"Open tickets", "17", "-3", true⟩]

structure Activity where
  who : String
  what : String
  time : String

def activities : List Activity := [
  ⟨"Olivia Martin", "Upgraded to Pro", "2 minutes ago"⟩,
  ⟨"Liam Johnson", "Created a new project", "1 hour ago"⟩,
  ⟨"Emma Brown", "Invited 3 teammates", "Yesterday"⟩,
  ⟨"Noah Davis", "Exported a report", "2 days ago"⟩]

/-- The heights of the bars in percent. -/
def bars : List Nat := [40, 65, 50, 80, 55, 90, 70, 95]

def navLink (look : Look) (item : NavItem) : Element :=
  let tone :=
    if item.current then
      look.classes "bg-indigo-50 text-indigo-700" "dark:bg-gray-800 dark:text-white"
    else
      look.classes "text-gray-600 hover:bg-gray-100 hover:text-gray-900"
        "dark:text-gray-300 dark:hover:bg-gray-800"
  element "a"
    |>.attr "href" "#"
    |>.classes ("flex items-center gap-3 rounded-md px-3 py-2 text-sm font-medium " ++ tone)
    |>.child (Widget.icon item.icon "h-5 w-5")
    |>.text item.label

def sidebar (look : Look) : Element :=
  element "aside"
    |>.classes (look.classes
      "hidden w-64 flex-none border-r border-gray-200 bg-gray-50 px-4 py-6 lg:block"
      "dark:border-gray-800 dark:bg-gray-900")
    |>.child (element "div" |>.classes "px-2" |>.child (Widget.brand look))
    |>.child (element "nav"
      |>.classes "mt-8 space-y-1"
      |>.elements (navItems.map (navLink look)))

def figure (look : Look) (stat : Stat) : Element :=
  let tone := if stat.falling then "text-red-600" else "text-green-600"
  Widget.card look
    |>.child (element "p"
      |>.classes (look.classes "text-sm font-medium text-gray-500" "dark:text-gray-400")
      |>.text stat.label)
    |>.child (element "p"
      |>.classes "mt-2 flex items-baseline gap-2"
      |>.child (element "span" |>.classes "text-3xl font-semibold" |>.text stat.value)
      |>.child (element "span"
        |>.classes ("text-sm font-medium " ++ tone)
        |>.text stat.delta))

def activityItem (look : Look) (activity : Activity) : Element :=
  element "li"
    |>.classes "flex items-center justify-between py-3"
    |>.child (element "div"
      |>.child (element "p" |>.classes "text-sm font-medium" |>.text activity.who)
      |>.child (element "p"
        |>.classes (look.classes "text-sm text-gray-500" "dark:text-gray-400")
        |>.text activity.what))
    |>.child (element "time"
      |>.classes (look.classes "text-xs text-gray-400" "dark:text-gray-500")
      |>.text activity.time)

def latest (look : Look) : Element :=
  Widget.card look
    |>.child (element "h2" |>.classes "text-lg font-semibold" |>.text "Recent activity")
    |>.child (element "ul"
      |>.classes (look.classes "mt-4 divide-y divide-gray-200" "dark:divide-gray-800")
      |>.elements (activities.map (activityItem look)))

def bar (height : Nat) : Element :=
  element "div" |>.classes s!"w-full rounded-t bg-indigo-500 h-[{height}%]"

def revenue (look : Look) : Element :=
  Widget.styledCard look "lg:col-span-2"
    |>.child (element "h2" |>.classes "text-lg font-semibold" |>.text "Revenue")
    |>.child (element "div"
      |>.classes (look.classes "mt-4 flex h-64 items-end gap-2 rounded-lg bg-gray-50 p-4"
        "dark:bg-gray-800")
      |>.elements (bars.map bar))

def greeting (look : Look) : Element :=
  element "div"
    |>.classes "flex items-center justify-between"
    |>.child (element "div"
      |>.child (element "h1"
        |>.classes "text-2xl font-bold tracking-tight"
        |>.text ("Welcome back to " ++ look.appName))
      |>.child (element "p"
        |>.classes (look.classes "mt-1 text-sm text-gray-500" "dark:text-gray-400")
        |>.text "Here is what happened across your workspace this week."))
    |>.child (Widget.primaryButton look "New report")

def content (look : Look) : Element :=
  element "main"
    |>.classes "flex-1 px-6 py-8 lg:px-10"
    |>.child (greeting look)
    |>.comment "Key metrics"
    |>.child (element "section"
      |>.classes "mt-8 grid gap-6 sm:grid-cols-2 xl:grid-cols-4"
      |>.elements (stats.map (figure look)))
    |>.child (element "section"
      |>.classes "mt-8 grid gap-6 lg:grid-cols-3"
      |>.child (revenue look)
      |>.child (latest look))

def body (look : Look) : Node :=
  Widget.shell look [
    element "div"
      |>.classes "flex min-h-screen"
      |>.child (sidebar look)
      |>.child (content look)]

end Scaffold.Page.Dashboard

/-! ### The table page

A search box, a table of records with a button for each action, and a way through the pages.
-/

namespace Scaffold.Page.CrudTable

def columns : List String := ["Name", "Email", "Role", "Status", "Actions"]

structure Member where
  name : String
  email : String
  role : String
  active : Bool

def members : List Member := [
  ⟨"Lindsay Walton", "lindsay@example.com", "Admin", true⟩,
  ⟨"Courtney Henry", "courtney@example.com", "Editor", true⟩,
  ⟨"Tom Cook", "tom@example.com", "Viewer", false⟩,
  ⟨"Whitney Francis", "whitney@example.com", "Editor", true⟩]

def actionButton (look : Look) (path label : String) : Element :=
  element "button"
    |>.attr "type" "button"
    |>.attr "aria-label" label
    |>.classes (look.classes "rounded-md p-1.5 text-gray-500 hover:bg-gray-100 hover:text-gray-900"
      "dark:text-gray-400 dark:hover:bg-gray-800 dark:hover:text-white")
    |>.child (Widget.icon path "h-4 w-4")

def cell : Element := element "td" |>.classes "whitespace-nowrap px-4 py-3 text-sm"

def status (active : Bool) : Element :=
  if active then Widget.badge "Active" "bg-green-100 text-green-800"
  else Widget.badge "Invited" "bg-yellow-100 text-yellow-800"

def row (look : Look) (m : Member) : Element :=
  element "tr"
    |>.child (cell |>.classes "font-medium" |>.text m.name)
    |>.child (cell |>.text m.email)
    |>.child (cell |>.text m.role)
    |>.child (cell |>.child (status m.active))
    |>.child (cell
      |>.child (element "div"
        |>.classes "flex gap-1"
        |>.child (actionButton look Icon.pencil ("Edit " ++ m.name))
        |>.child (actionButton look Icon.trash ("Delete " ++ m.name))))

def searchBox (look : Look) : Element :=
  element "div"
    |>.classes "relative w-full sm:max-w-xs"
    |>.child (element "label" |>.labelFor "search" |>.classes "sr-only" |>.text "Search records")
    |>.child (element "div"
      |>.classes ("pointer-events-none absolute inset-y-0 left-0 flex items-center pl-3 " ++
        "text-gray-400")
      |>.child (Widget.icon Icon.search "h-4 w-4"))
    |>.child (element "input"
      |>.attr "id" "search"
      |>.attr "type" "search"
      |>.attr "placeholder" "Search by name or email"
      |>.classes (look.classes
        ("block w-full rounded-md border border-gray-300 py-2 pl-9 pr-3 text-sm " ++
          "focus:border-indigo-500 focus:outline-none focus:ring-1 focus:ring-indigo-500")
        "dark:border-gray-700 dark:bg-gray-900"))

def toolbar (look : Look) : Element :=
  element "div"
    |>.classes "mt-8 flex flex-col gap-4 sm:flex-row sm:items-center sm:justify-between"
    |>.child (searchBox look)
    |>.child (element "button"
      |>.attr "type" "button"
      |>.classes ("inline-flex items-center gap-2 rounded-md bg-indigo-600 px-4 py-2 text-sm " ++
        "font-semibold text-white shadow-sm hover:bg-indigo-500")
      |>.child (Widget.icon Icon.plus "h-4 w-4")
      |>.text "Add record")

def columnHead (label : String) : Element :=
  element "th"
    |>.attr "scope" "col"
    |>.classes ("px-4 py-3 text-left text-xs font-semibold uppercase tracking-wide " ++
      "text-gray-500")
    |>.text label

def table (look : Look) : Element :=
  element "div"
    |>.classes (look.classes "mt-6 overflow-x-auto rounded-lg border border-gray-200"
      "dark:border-gray-800")
    |>.child (element "table"
      |>.classes (look.classes "min-w-full divide-y divide-gray-200" "dark:divide-gray-800")
      |>.child (element "thead"
        |>.classes (look.classes "bg-gray-50" "dark:bg-gray-900")
        |>.child (element "tr" |>.elements (columns.map columnHead)))
      |>.child (element "tbody"
        |>.classes (look.classes "divide-y divide-gray-200" "dark:divide-gray-800")
        |>.elements (members.map (row look))))

def pagination (look : Look) : Element :=
  element "nav"
    |>.attr "aria-label" "Pagination"
    |>.classes "mt-4 flex items-center justify-between"
    |>.child (element "p"
      |>.classes (look.classes "text-sm text-gray-600" "dark:text-gray-400")
      |>.text "Showing 1 to 4 of 24 records")
    |>.child (element "div"
      |>.classes "flex gap-2"
      |>.child (Widget.secondaryButton look "Previous")
      |>.child (Widget.secondaryButton look "Next"))

def body (look : Look) : Node :=
  Widget.shell look [
    Widget.header look ["Dashboard", "Users", "Reports"],
    element "main"
      |>.child (Widget.container
        |>.classes "py-12"
        |>.child (element "h1" |>.classes "text-2xl font-bold tracking-tight" |>.text "Users")
        |>.child (element "p"
          |>.classes (look.classes "mt-1 text-sm text-gray-600" "dark:text-gray-400")
          |>.text ("Everyone with access to " ++ look.appName ++ "."))
        |>.child (toolbar look)
        |>.comment "Records"
        |>.child (table look)
        |>.child (pagination look))]

end Scaffold.Page.CrudTable
