import Scaffold.Page.Workspace
import Scaffold.Proofs.Page.Widget

/-!
# The pages to work on are themed

Some class lists here are put together in two steps, and one from the heights of the bars.
-/

namespace Scaffold

open ThemedElement (start startClasses)

/-! ### The dashboard -/

namespace Page.Dashboard

theorem themed_navLink {item : NavItem} (hicon : Plain item.icon) (hlabel : Plain item.label) :
    ThemedElement KeepsNeutral true fun look => navLink look item :=
  start rfl
    |>.attr rfl (.lit rfl)
    |>.classes (.lead (.lit rfl) (.ite (.look (.lit rfl) (.lit rfl)) (.look (.lit rfl) (.lit rfl))))
    |>.child (Widget.themed_icon hicon (.lit rfl))
    |>.text (.fixed hlabel)

theorem themed_navItems :
    ∀ item ∈ navItems, ThemedElement KeepsNeutral true fun look => navLink look item := by
  simp only [navItems, List.forall_mem_cons]
  exact ⟨themed_navLink Icon.plain_home (.lit rfl), themed_navLink Icon.plain_chart (.lit rfl),
    themed_navLink Icon.plain_users (.lit rfl), themed_navLink Icon.plain_cog (.lit rfl), by simp⟩

theorem themed_sidebar : ThemedElement KeepsNeutral true sidebar :=
  start rfl
    |>.classes (.look (.lit rfl) (.lit rfl))
    |>.child (start rfl |>.classes (.lit rfl) |>.child Widget.themed_brand)
    |>.child (start rfl |>.classes (.lit rfl) |>.elements themed_navItems)

theorem themed_figure {stat : Stat} (hlabel : Plain stat.label) (hvalue : Plain stat.value)
    (hdelta : Plain stat.delta) : ThemedElement KeepsNeutral true fun look => figure look stat :=
  Widget.themed_card
    |>.child (start rfl |>.classes (.look (.lit rfl) (.lit rfl)) |>.text (.fixed hlabel))
    |>.child (start rfl
      |>.classes (.lit rfl)
      |>.child (start rfl |>.classes (.lit rfl) |>.text (.fixed hvalue))
      |>.child (start rfl
        |>.classes (.fixed (.append (.lit rfl) (.ite (.lit rfl) (.lit rfl))))
        |>.text (.fixed hdelta)))

theorem themed_stats :
    ∀ stat ∈ stats, ThemedElement KeepsNeutral true fun look => figure look stat := by
  simp only [stats, List.forall_mem_cons]
  exact ⟨themed_figure (.lit rfl) (.lit rfl) (.lit rfl),
    themed_figure (.lit rfl) (.lit rfl) (.lit rfl),
    themed_figure (.lit rfl) (.lit rfl) (.lit rfl),
    themed_figure (.lit rfl) (.lit rfl) (.lit rfl), by simp⟩

theorem themed_activityItem {activity : Activity} (hwho : Plain activity.who)
    (hwhat : Plain activity.what) (htime : Plain activity.time) :
    ThemedElement KeepsNeutral true fun look => activityItem look activity :=
  start rfl
    |>.classes (.lit rfl)
    |>.child (start rfl
      |>.child (start rfl |>.classes (.lit rfl) |>.text (.fixed hwho))
      |>.child (start rfl |>.classes (.look (.lit rfl) (.lit rfl)) |>.text (.fixed hwhat)))
    |>.child (start rfl |>.classes (.look (.lit rfl) (.lit rfl)) |>.text (.fixed htime))

theorem themed_activities : ∀ activity ∈ activities,
    ThemedElement KeepsNeutral true fun look => activityItem look activity := by
  simp only [activities, List.forall_mem_cons]
  exact ⟨themed_activityItem (.lit rfl) (.lit rfl) (.lit rfl),
    themed_activityItem (.lit rfl) (.lit rfl) (.lit rfl),
    themed_activityItem (.lit rfl) (.lit rfl) (.lit rfl),
    themed_activityItem (.lit rfl) (.lit rfl) (.lit rfl), by simp⟩

theorem themed_latest : ThemedElement KeepsNeutral true latest :=
  Widget.themed_card
    |>.child (start rfl |>.classes (.lit rfl) |>.text (.lit rfl))
    |>.child (start rfl |>.classes (.look (.lit rfl) (.lit rfl)) |>.elements themed_activities)

theorem plain_bars :
    ∀ height ∈ bars, Plain s!"w-full rounded-t bg-indigo-500 h-[{height}%]" := by
  have hheights : ∀ height ∈ bars, Plain (toString height) := by
    simp only [bars, List.forall_mem_cons]
    exact ⟨.lit rfl, .lit rfl, .lit rfl, .lit rfl, .lit rfl, .lit rfl, .lit rfl, .lit rfl, by simp⟩
  exact fun height h => .append (.append (.lit rfl) (hheights height h)) (.lit rfl)

theorem themed_revenue : ThemedElement KeepsNeutral true revenue :=
  Widget.themed_styledCard (.lit rfl)
    |>.child (start rfl |>.classes (.lit rfl) |>.text (.lit rfl))
    |>.child (start rfl
      |>.classes (.look (.lit rfl) (.lit rfl))
      |>.elements fun height hheight =>
        start rfl |>.classes (.fixed (plain_bars height hheight)))

theorem themed_greeting : ThemedElement KeepsNeutral true greeting :=
  start rfl
    |>.classes (.lit rfl)
    |>.child (start rfl
      |>.child (start rfl |>.classes (.lit rfl) |>.text (.lead (.lit rfl) .appName))
      |>.child (start rfl |>.classes (.look (.lit rfl) (.lit rfl)) |>.text (.lit rfl)))
    |>.child (Widget.themed_primaryButton (.lit rfl))

theorem themed_content : ThemedElement KeepsNeutral true content :=
  start rfl
    |>.classes (.lit rfl)
    |>.child themed_greeting
    |>.comment rfl
    |>.child (start rfl |>.classes (.lit rfl) |>.elements themed_stats)
    |>.child (start rfl
      |>.classes (.lit rfl)
      |>.child themed_revenue
      |>.child themed_latest)

theorem themed_body : ThemedPage KeepsNeutral body :=
  .shell <|
    .cons (start rfl
      |>.classes (.lit rfl)
      |>.child themed_sidebar
      |>.child themed_content)
      .nil

end Page.Dashboard

/-! ### The table page -/

namespace Page.CrudTable

theorem themed_actionButton {path label : String} (hpath : Plain path) (hlabel : Plain label) :
    ThemedElement KeepsNeutral true fun look => actionButton look path label :=
  start rfl
    |>.attr rfl (.lit rfl)
    |>.attr rfl hlabel
    |>.classes (.look (.lit rfl) (.lit rfl))
    |>.child (Widget.themed_icon hpath (.lit rfl))

theorem themed_cell : ThemedElement KeepsNeutral true fun _ => cell :=
  start rfl |>.classes (.lit rfl)

theorem themed_status (active : Bool) : ThemedElement KeepsNeutral true fun _ => status active :=
  .ite (Widget.themed_badge (.lit rfl) (.lit rfl)) (Widget.themed_badge (.lit rfl) (.lit rfl))

theorem themed_row {m : Member} (hname : Plain m.name) (hemail : Plain m.email)
    (hrole : Plain m.role) : ThemedElement KeepsNeutral false fun look => row look m :=
  start rfl
    |>.child (startClasses rfl rfl rfl |>.text (.fixed hname))
    |>.child (themed_cell |>.text (.fixed hemail))
    |>.child (themed_cell |>.text (.fixed hrole))
    |>.child (themed_cell |>.child (themed_status m.active))
    |>.child (themed_cell
      |>.child (start rfl
        |>.classes (.lit rfl)
        |>.child (themed_actionButton Icon.plain_pencil (.append (.lit rfl) hname))
        |>.child (themed_actionButton Icon.plain_trash (.append (.lit rfl) hname))))

theorem themed_members :
    ∀ m ∈ members, ThemedElement KeepsNeutral false fun look => row look m := by
  simp only [members, List.forall_mem_cons]
  exact ⟨themed_row (.lit rfl) (.lit rfl) (.lit rfl),
    themed_row (.lit rfl) (.lit rfl) (.lit rfl),
    themed_row (.lit rfl) (.lit rfl) (.lit rfl),
    themed_row (.lit rfl) (.lit rfl) (.lit rfl), by simp⟩

theorem themed_searchBox : ThemedElement KeepsNeutral true searchBox :=
  start rfl
    |>.classes (.lit rfl)
    |>.child (start rfl
      |>.labelFor (.lit rfl)
      |>.classes (.lit rfl)
      |>.text (.lit rfl))
    |>.child (start rfl
      |>.classes (.fixed (.append (.lit rfl) (.lit rfl)))
      |>.child (Widget.themed_icon (.lit rfl) (.lit rfl)))
    |>.child (start rfl
      |>.attr rfl (.lit rfl)
      |>.attr rfl (.lit rfl)
      |>.attr rfl (.lit rfl)
      |>.classes (.look (.append (.lit rfl) (.lit rfl)) (.lit rfl)))

theorem themed_toolbar : ThemedElement KeepsNeutral true toolbar :=
  start rfl
    |>.classes (.lit rfl)
    |>.child themed_searchBox
    |>.child (start rfl
      |>.attr rfl (.lit rfl)
      |>.classes (.fixed (.append (.lit rfl) (.lit rfl)))
      |>.child (Widget.themed_icon (.lit rfl) (.lit rfl))
      |>.text (.lit rfl))

theorem themed_columnHead {label : String} (h : Plain label) :
    ThemedElement KeepsNeutral true fun _ => columnHead label :=
  start rfl
    |>.attr rfl (.lit rfl)
    |>.classes (.fixed (.append (.lit rfl) (.lit rfl)))
    |>.text (.fixed h)

theorem themed_columns :
    ∀ label ∈ columns, ThemedElement KeepsNeutral true fun _ => columnHead label := by
  simp only [columns, List.forall_mem_cons]
  exact ⟨themed_columnHead (.lit rfl), themed_columnHead (.lit rfl), themed_columnHead (.lit rfl),
    themed_columnHead (.lit rfl), themed_columnHead (.lit rfl), by simp⟩

theorem themed_table : ThemedElement KeepsNeutral true table :=
  start rfl
    |>.classes (.look (.lit rfl) (.lit rfl))
    |>.child (start rfl
      |>.classes (.look (.lit rfl) (.lit rfl))
      |>.child (start rfl
        |>.classes (.look (.lit rfl) (.lit rfl))
        |>.child (start rfl |>.elements themed_columns))
      |>.child (start rfl |>.classes (.look (.lit rfl) (.lit rfl)) |>.elements themed_members))

theorem themed_pagination : ThemedElement KeepsNeutral true pagination :=
  start rfl
    |>.attr rfl (.lit rfl)
    |>.classes (.lit rfl)
    |>.child (start rfl |>.classes (.look (.lit rfl) (.lit rfl)) |>.text (.lit rfl))
    |>.child (start rfl
      |>.classes (.lit rfl)
      |>.child (Widget.themed_secondaryButton (.lit rfl))
      |>.child (Widget.themed_secondaryButton (.lit rfl)))

theorem themed_body : ThemedPage KeepsNeutral body := by
  have hlinks : ∀ link ∈ ["Dashboard", "Users", "Reports"], Plain link := by
    simp only [List.forall_mem_cons]
    exact ⟨.lit rfl, .lit rfl, .lit rfl, by simp⟩
  exact .shell <|
    .cons (Widget.themed_header hlinks) <|
    .cons (start rfl
      |>.child (startClasses rfl rfl rfl
        |>.child (start rfl |>.classes (.lit rfl) |>.text (.lit rfl))
        |>.child (start rfl
          |>.classes (.look (.lit rfl) (.lit rfl))
          |>.text (.trail (.lead (.lit rfl) .appName) (.lit rfl)))
        |>.child themed_toolbar
        |>.comment rfl
        |>.child themed_table
        |>.child themed_pagination))
      .nil

end Page.CrudTable

end Scaffold
