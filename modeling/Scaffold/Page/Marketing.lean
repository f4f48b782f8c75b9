import Scaffold.Page.Widget

/-!
# Pages for visitors

The landing page, the pricing page and the blog. They share the header and the footer of the site.
-/

/-! ### The landing page

A hero, three features, a testimonial and a call to action.
-/

namespace Scaffold.Page.Landing

structure Feature where
  icon : String
  title : String
  copy : String

def features : List Feature := [
  ⟨Icon.bolt, "Fast by default",
    "Pages load instantly with a lean bundle and server rendering out of the box."⟩,
  ⟨Icon.shield, "Secure foundations",
    "Authentication, roles, and audit logs are wired in from the very first deploy."⟩,
  ⟨Icon.chart, "Insightful analytics",
    "Track the metrics that matter with dashboards your whole team understands."⟩]

def hero (look : Look) : Element :=
  element "section"
    |>.classes "py-24 sm:py-32"
    |>.child (Widget.container
      |>.child (element "div"
        |>.classes "mx-auto max-w-3xl text-center"
        |>.child (Widget.badge "New release"
          "bg-indigo-50 text-indigo-700 ring-1 ring-inset ring-indigo-600/20")
        |>.child (element "h1"
          |>.classes "mt-6 text-4xl font-extrabold tracking-tight sm:text-6xl"
          |>.text ("Build faster with " ++ look.appName))
        |>.child (element "p"
          |>.classes (look.classes "mt-6 text-lg leading-8 text-gray-600" "dark:text-gray-300")
          |>.text ("Everything your team needs to ship polished products, from the first " ++
            "prototype to global scale."))
        |>.child (element "div"
          |>.classes "mt-10 flex items-center justify-center gap-4"
          |>.child (Widget.primaryButton look "Start free trial")
          |>.child (Widget.secondaryButton look "Book a demo"))))

def featureCard (look : Look) (feature : Feature) : Element :=
  Widget.card look
    |>.child (element "div"
      |>.classes "flex h-10 w-10 items-center justify-center rounded-lg bg-indigo-600 text-white"
      |>.child (Widget.icon feature.icon "h-6 w-6"))
    |>.child (element "h3" |>.classes "mt-4 text-lg font-semibold" |>.text feature.title)
    |>.child (element "p"
      |>.classes (look.classes "mt-2 text-sm text-gray-600" "dark:text-gray-300")
      |>.text feature.copy)

def featureSection (look : Look) : Element :=
  element "section"
    |>.attr "id" "features"
    |>.classes (look.classes "bg-gray-50 py-24" "dark:bg-gray-900")
    |>.child (Widget.container
      |>.child (Widget.heading look "Features" "Everything you need to launch"
        "A complete toolkit that grows with your product.")
      |>.child (element "div"
        |>.classes "mt-16 grid gap-8 md:grid-cols-3"
        |>.elements (features.map (featureCard look))))

def testimonial (look : Look) : Element :=
  element "section"
    |>.classes "py-24"
    |>.child (Widget.container
      |>.child (element "figure"
        |>.classes "mx-auto max-w-2xl text-center"
        |>.child (element "blockquote"
          |>.classes "text-xl font-medium leading-8"
          |>.child (element "p"
            |>.text ("“" ++ look.appName ++
              " replaced three tools for us and cut our release cycle in half.”")))
        |>.child (element "figcaption"
          |>.classes (look.classes "mt-6 text-sm text-gray-600" "dark:text-gray-400")
          |>.text "Jordan Lee, Head of Product at Northwind")))

def callToAction : Element :=
  element "section"
    |>.classes "bg-indigo-600 py-16"
    |>.child (Widget.container
      |>.child (element "div"
        |>.classes "flex flex-col items-center justify-between gap-6 md:flex-row"
        |>.child (element "h2"
          |>.classes "text-2xl font-bold tracking-tight text-white"
          |>.text "Ready to get started?")
        |>.child (element "a"
          |>.attr "href" "#"
          |>.classes ("inline-flex items-center gap-2 rounded-md bg-white px-5 py-3 text-sm " ++
            "font-semibold text-indigo-600 hover:bg-indigo-50")
          |>.text "Create your account"
          |>.child (Widget.icon Icon.arrowRight "h-4 w-4"))))

def body (look : Look) : Node :=
  Widget.shell look [
    Widget.header look ["Features", "Pricing", "Customers", "Docs"],
    element "main"
      |>.comment "Hero"
      |>.child (hero look)
      |>.comment "Features"
      |>.child (featureSection look)
      |>.comment "Testimonial"
      |>.child (testimonial look)
      |>.comment "Call to action"
      |>.child callToAction,
    Widget.footer look]

end Scaffold.Page.Landing

/-! ### The pricing page

Three plans side by side, one of which is put forward, and a word on billing.
-/

namespace Scaffold.Page.Pricing

structure Plan where
  name : String
  price : String
  blurb : String
  features : List String
  /-- The plan that is put forward. -/
  featured : Bool

def offers : List Plan := [
  ⟨"Starter", "$0", "For individuals exploring the basics.",
    ["1 project", "Community support", "Basic analytics"], false⟩,
  ⟨"Pro", "$29", "For growing teams that need more power.",
    ["Unlimited projects", "Priority support", "Advanced analytics", "Custom domains"], true⟩,
  ⟨"Enterprise", "$99", "For organizations with advanced needs.",
    ["Everything in Pro", "Single sign-on", "Audit logs", "Dedicated success manager"], false⟩]

/-- The card of a plan before its content: the plan put forward has a ring and a badge. -/
def planFrame (look : Look) (featured : Bool) : Element :=
  if featured then
    Widget.styledCard look "relative ring-2 ring-indigo-600"
      |>.child (element "div"
        |>.classes "absolute -top-3 left-1/2 -translate-x-1/2"
        |>.child (Widget.badge "Most popular" "bg-indigo-600 text-white"))
  else
    Widget.styledCard look "relative"

def planButton (look : Look) (featured : Bool) : Element :=
  if featured then Widget.primaryButton look "Get started"
  else Widget.secondaryButton look "Get started"

def planCard (look : Look) (plan : Plan) : Element :=
  planFrame look plan.featured
    |>.child (element "h3" |>.classes "text-lg font-semibold" |>.text plan.name)
    |>.child (element "p"
      |>.classes (look.classes "mt-2 text-sm text-gray-600" "dark:text-gray-400")
      |>.text plan.blurb)
    |>.child (element "p"
      |>.classes "mt-6 flex items-baseline gap-1"
      |>.child (element "span"
        |>.classes "text-4xl font-bold tracking-tight"
        |>.text plan.price)
      |>.child (element "span"
        |>.classes (look.classes "text-sm text-gray-500" "dark:text-gray-400")
        |>.text "/month"))
    |>.child (element "ul"
      |>.classes "mt-6 space-y-3"
      |>.elements (plan.features.map (Widget.tickedItem look)))
    |>.child (element "div" |>.classes "mt-8 grid" |>.child (planButton look plan.featured))

def plans (look : Look) : Element :=
  element "section"
    |>.classes "py-24"
    |>.child (Widget.container
      |>.child (element "div"
        |>.classes "mx-auto max-w-2xl text-center"
        |>.child (element "h1"
          |>.classes "text-4xl font-extrabold tracking-tight sm:text-5xl"
          |>.text (look.appName ++ " pricing"))
        |>.child (element "p"
          |>.classes (look.classes "mt-4 text-lg text-gray-600" "dark:text-gray-300")
          |>.text "Simple, transparent plans. Upgrade or cancel any time."))
      |>.comment "Plans"
      |>.child (element "div"
        |>.classes "mt-16 grid gap-8 lg:grid-cols-3"
        |>.elements (offers.map (planCard look))))

def questions (look : Look) : Element :=
  element "section"
    |>.classes (look.classes "bg-gray-50 py-16" "dark:bg-gray-900")
    |>.child (Widget.container
      |>.child (Widget.heading look "FAQ" "Questions about billing?"
        "Every plan includes a 14-day free trial, and annual billing saves two months."))

def body (look : Look) : Node :=
  Widget.shell look [
    Widget.header look ["Product", "Pricing", "Docs"],
    element "main" |>.child (plans look) |>.child (questions look),
    Widget.footer look]

end Scaffold.Page.Pricing

/-! ### The blog page

An index of posts, each on a card of its own.
-/

namespace Scaffold.Page.BlogList

structure Post where
  title : String
  excerpt : String
  category : String
  date : String
  author : String

def posts : List Post := [
  ⟨"Designing for clarity at scale",
    "How we rebuilt our component library so every screen feels like part of one product.",
    "Design", "Mar 16, 2024", "Michael Foster"⟩,
  ⟨"Shipping weekly without breaking things",
    "The release checklist, preview environments, and feature flags behind our cadence.",
    "Engineering", "Mar 10, 2024", "Lindsay Walton"⟩,
  ⟨"What our customers taught us this quarter",
    "Three patterns from hundreds of interviews and what we changed because of them.",
    "Product", "Feb 12, 2024", "Tom Cook"⟩]

def preview (look : Look) (post : Post) : Element :=
  element "article"
    |>.classes "flex flex-col items-start"
    |>.child (element "div"
      |>.classes "flex items-center gap-3 text-xs"
      |>.child (element "time"
        |>.classes (look.classes "text-gray-500" "dark:text-gray-400")
        |>.text post.date)
      |>.child (Widget.badge post.category "bg-gray-100 text-gray-700"))
    |>.child (element "h3"
      |>.classes "mt-3 text-lg font-semibold leading-6 hover:text-indigo-600"
      |>.child (element "a" |>.attr "href" "#" |>.text post.title))
    |>.child (element "p"
      |>.classes (look.classes "mt-3 line-clamp-3 text-sm leading-6 text-gray-600"
        "dark:text-gray-300")
      |>.text post.excerpt)
    |>.child (element "p"
      |>.classes "mt-4 text-sm font-medium"
      |>.text ("By " ++ post.author))

def title (look : Look) : Element :=
  element "div"
    |>.classes "mx-auto max-w-2xl text-center"
    |>.child (element "h1"
      |>.classes "text-4xl font-bold tracking-tight sm:text-5xl"
      |>.text ("The " ++ look.appName ++ " Blog"))
    |>.child (element "p"
      |>.classes (look.classes "mt-4 text-lg text-gray-600" "dark:text-gray-300")
      |>.text "Stories, guides, and updates from the team.")

def body (look : Look) : Node :=
  Widget.shell look [
    Widget.header look ["Blog", "Changelog", "About"],
    element "main"
      |>.classes "py-24"
      |>.child (Widget.container
        |>.child (title look)
        |>.comment "Posts"
        |>.child (element "div"
          |>.classes (look.classes
            ("mx-auto mt-16 grid gap-x-8 gap-y-16 border-t border-gray-200 pt-16 " ++
              "lg:grid-cols-3")
            "dark:border-gray-800")
          |>.elements (posts.map (preview look)))
        |>.child (element "div"
          |>.classes "mt-16 flex justify-center"
          |>.child (Widget.secondaryButton look "Load more posts"))),
    Widget.footer look]

end Scaffold.Page.BlogList
