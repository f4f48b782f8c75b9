import Scaffold.Page.Account
import Scaffold.Proofs.Page.Widget

/-!
# The pages about an account are themed

Both forms for signing in and up share their frame, and all settings their panel.
-/

namespace Scaffold

open ThemedElement (start)

/-! ### The pages for signing in and signing up -/

namespace Page.Auth

theorem themed_frame {title : Look → String} {lead : String} {form prompt : Look → Element}
    {classed classed' : Bool} (htitle : KeepsNeutral title) (hlead : Plain lead)
    (hform : ThemedElement KeepsNeutral classed form)
    (hprompt : ThemedElement KeepsNeutral classed' prompt) :
    ThemedPage KeepsNeutral fun look => frame look (title look) lead (form look) (prompt look) :=
  .shell <|
    .cons (start rfl
      |>.classes (.lit rfl)
      |>.child (start rfl
        |>.classes (.lit rfl)
        |>.child (start rfl |>.classes (.lit rfl) |>.child Widget.themed_brand)
        |>.child (start rfl |>.classes (.lit rfl) |>.text htitle)
        |>.child (start rfl |>.classes (.look (.lit rfl) (.lit rfl)) |>.text (.fixed hlead))
        |>.child (Widget.themed_styledCard (.lit rfl) |>.child hform)
        |>.child hprompt))
      .nil

theorem themed_sendButton {label : String} (h : Plain label) :
    ThemedElement KeepsNeutral true fun _ => sendButton label :=
  start rfl
    |>.attr rfl (.lit rfl)
    |>.classes (.fixed (.append (.append (.lit rfl) (.lit rfl)) (.lit rfl)))
    |>.text (.fixed h)

theorem themed_crossLink {question link href : String} (hquestion : Plain question)
    (hlink : Plain link) (hhref : Plain href) :
    ThemedElement KeepsNeutral true fun look => crossLink look question link href :=
  start rfl
    |>.classes (.look (.lit rfl) (.lit rfl))
    |>.text (.fixed (.append hquestion (.lit rfl)))
    |>.child (start rfl
      |>.attr rfl hhref
      |>.classes (.lit rfl)
      |>.text (.fixed hlink))

theorem themed_bareForm : ThemedElement KeepsNeutral true fun _ => bareForm :=
  start rfl |>.classes (.lit rfl) |>.attr rfl (.lit rfl) |>.attr rfl (.lit rfl)

theorem themed_loginForm : ThemedElement KeepsNeutral true loginForm :=
  themed_bareForm
    |>.child (Widget.themed_field (.lit rfl) (.lit rfl) (.lit rfl) (.lit rfl))
    |>.child (Widget.themed_field (.lit rfl) (.lit rfl) (.lit rfl) (.lit rfl))
    |>.child (start rfl
      |>.classes (.lit rfl)
      |>.child (Widget.themed_checkbox (.lit rfl) (.lit rfl))
      |>.child (start rfl
        |>.attr rfl (.lit rfl)
        |>.classes (.lit rfl)
        |>.text (.lit rfl)))
    |>.child (themed_sendButton (.lit rfl))

theorem themed_login : ThemedPage KeepsNeutral login :=
  themed_frame (.lead (.lit rfl) .appName) (.lit rfl) themed_loginForm
    (themed_crossLink (.lit rfl) (.lit rfl) (.lit rfl))

theorem themed_signupForm : ThemedElement KeepsNeutral true signupForm :=
  themed_bareForm
    |>.child (Widget.themed_field (.lit rfl) (.lit rfl) (.lit rfl) (.lit rfl))
    |>.child (Widget.themed_field (.lit rfl) (.lit rfl) (.lit rfl) (.lit rfl))
    |>.child (Widget.themed_field (.lit rfl) (.lit rfl) (.lit rfl) (.lit rfl))
    |>.child (Widget.themed_field (.lit rfl) (.lit rfl) (.lit rfl) (.lit rfl))
    |>.child (Widget.themed_checkbox (.lit rfl) (.lit rfl))
    |>.child (themed_sendButton (.lit rfl))

theorem themed_signup : ThemedPage KeepsNeutral signup :=
  themed_frame (.trail (.lead (.lit rfl) .appName) (.lit rfl)) (.lit rfl) themed_signupForm
    (themed_crossLink (.lit rfl) (.lit rfl) (.lit rfl))

end Page.Auth

/-! ### The onboarding page -/

namespace Page.Onboarding

theorem themed_marker {step : Step} (hnumber : Plain step.number) :
    ThemedElement KeepsNeutral true fun look => marker look step := by
  obtain ⟨number, label, progress⟩ := step
  cases progress with
  | done =>
    exact start rfl
      |>.classes (.lit rfl)
      |>.child (Widget.themed_icon (.lit rfl) (.lit rfl))
  | current =>
    exact start rfl
      |>.classes (.fixed (.append (.lit rfl) (.lit rfl)))
      |>.text (.fixed hnumber)
  | ahead =>
    exact start rfl
      |>.classes (.look (.append (.lit rfl) (.lit rfl)) (.lit rfl))
      |>.text (.fixed hnumber)

theorem themed_stepItem {step : Step} (hnumber : Plain step.number) (hlabel : Plain step.label) :
    ThemedElement KeepsNeutral true fun look => stepItem look step := by
  have hitem : ThemedElement KeepsNeutral true fun look =>
      element "li"
        |>.classes "flex items-center gap-3"
        |>.child (marker look step)
        |>.child (element "span" |>.classes "text-sm font-medium" |>.text step.label) :=
    start rfl
      |>.classes (.lit rfl)
      |>.child (themed_marker hnumber)
      |>.child (start rfl |>.classes (.lit rfl) |>.text (.fixed hlabel))
  exact .ite (hitem.attr rfl (.lit rfl)) hitem

theorem themed_steps :
    ∀ step ∈ steps, ThemedElement KeepsNeutral true fun look => stepItem look step := by
  simp only [steps, List.forall_mem_cons]
  exact ⟨themed_stepItem (.lit rfl) (.lit rfl), themed_stepItem (.lit rfl) (.lit rfl),
    themed_stepItem (.lit rfl) (.lit rfl), by simp⟩

theorem plain_sizes : ∀ size ∈ sizes, Plain size := by
  simp only [sizes, List.forall_mem_cons]
  exact ⟨.lit rfl, .lit rfl, .lit rfl, .lit rfl, by simp⟩

theorem themed_sizeField : ThemedElement KeepsNeutral false sizeField :=
  start rfl
    |>.child (start rfl
      |>.labelFor (.lit rfl)
      |>.classes (.look (.lit rfl) (.lit rfl))
      |>.text (.lit rfl))
    |>.child (start rfl
      |>.attr rfl (.lit rfl)
      |>.attr rfl (.lit rfl)
      |>.classes (.look (.append (.lit rfl) (.lit rfl)) (.lit rfl))
      |>.elements fun size hsize =>
        start rfl
          |>.attr rfl (plain_sizes size hsize)
          |>.text (.fixed (plain_sizes size hsize)))

theorem themed_form : ThemedElement KeepsNeutral true form :=
  start rfl
    |>.classes (.lit rfl)
    |>.child (Widget.themed_field (.lit rfl) (.lit rfl) (.lit rfl) (.lit rfl))
    |>.child themed_sizeField
    |>.child (start rfl
      |>.classes (.lit rfl)
      |>.child (Widget.themed_secondaryButton (.lit rfl))
      |>.child (Widget.themed_primaryButton (.lit rfl)))

theorem themed_body : ThemedPage KeepsNeutral body :=
  .shell <|
    .cons (start rfl
      |>.classes (.lit rfl)
      |>.child Widget.themed_brand
      |>.child (start rfl |>.classes (.lit rfl) |>.text (.lead (.lit rfl) .appName))
      |>.child (start rfl |>.classes (.look (.lit rfl) (.lit rfl)) |>.text (.lit rfl))
      |>.comment rfl
      |>.child (start rfl |>.classes (.lit rfl) |>.elements themed_steps)
      |>.child (Widget.themed_styledCard (.lit rfl)
        |>.child (start rfl |>.classes (.lit rfl) |>.text (.lit rfl))
        |>.child themed_form))
      .nil

end Page.Onboarding

/-! ### The settings page -/

namespace Page.Settings

theorem themed_panel {title lead : String} {content : Look → Element} {classed : Bool}
    (htitle : Plain title) (hlead : Plain lead)
    (hcontent : ThemedElement KeepsNeutral classed content) :
    ThemedElement KeepsNeutral true fun look => panel look title lead (content look) :=
  start rfl
    |>.classes (.look (.lit rfl) (.lit rfl))
    |>.child (start rfl
      |>.child (start rfl |>.classes (.lit rfl) |>.text (.fixed htitle))
      |>.child (start rfl |>.classes (.look (.lit rfl) (.lit rfl)) |>.text (.fixed hlead)))
    |>.child (start rfl |>.classes (.lit rfl) |>.child hcontent)

theorem themed_profile : ThemedElement KeepsNeutral true profile :=
  start rfl
    |>.classes (.lit rfl)
    |>.child (start rfl
      |>.classes (.lit rfl)
      |>.child (Widget.themed_field (.lit rfl) (.lit rfl) (.lit rfl) (.lit rfl))
      |>.child (Widget.themed_field (.lit rfl) (.lit rfl) (.lit rfl) (.lit rfl)))
    |>.child (Widget.themed_field (.lit rfl) (.lit rfl) (.lit rfl) (.lit rfl))
    |>.child (start rfl
      |>.classes (.lit rfl)
      |>.child (Widget.themed_primaryButton (.lit rfl)))

theorem themed_notifications : ∀ box ∈ notifications,
    ThemedElement KeepsNeutral true fun look => Widget.checkbox look box.1 box.2 := by
  simp only [notifications, List.forall_mem_cons]
  exact ⟨Widget.themed_checkbox (.lit rfl) (.lit rfl), Widget.themed_checkbox (.lit rfl) (.lit rfl),
    Widget.themed_checkbox (.lit rfl) (.lit rfl), by simp⟩

theorem themed_notificationBoxes : ThemedElement KeepsNeutral true notificationBoxes :=
  start rfl
    |>.classes (.lit rfl)
    |>.child (start rfl |>.classes (.lit rfl) |>.text (.lit rfl))
    |>.elements themed_notifications

theorem themed_dangerZone : ThemedElement KeepsNeutral true dangerZone :=
  start rfl
    |>.classes (.look (.lit rfl) (.lit rfl))
    |>.child (start rfl |>.classes (.look (.lit rfl) (.lit rfl)) |>.text (.lit rfl))
    |>.child (start rfl
      |>.attr rfl (.lit rfl)
      |>.classes (.fixed (.append (.lit rfl) (.lit rfl)))
      |>.text (.lit rfl))

theorem themed_body : ThemedPage KeepsNeutral body := by
  have hlinks : ∀ link ∈ ["Dashboard", "Projects", "Settings"], Plain link := by
    simp only [List.forall_mem_cons]
    exact ⟨.lit rfl, .lit rfl, .lit rfl, by simp⟩
  exact .shell <|
    .cons (Widget.themed_header hlinks) <|
    .cons (start rfl
      |>.classes (.lit rfl)
      |>.child (start rfl |>.classes (.lit rfl) |>.text (.lit rfl))
      |>.child (start rfl
        |>.classes (.look (.lit rfl) (.lit rfl))
        |>.text (.trail (.lead (.lit rfl) .appName) (.lit rfl)))
      |>.comment rfl
      |>.child (themed_panel (.lit rfl) (.lit rfl) themed_profile)
      |>.comment rfl
      |>.child (themed_panel (.lit rfl) (.lit rfl) themed_notificationBoxes)
      |>.comment rfl
      |>.child (themed_panel (.lit rfl) (.lit rfl) themed_dangerZone))
      .nil

end Page.Settings

end Scaffold
