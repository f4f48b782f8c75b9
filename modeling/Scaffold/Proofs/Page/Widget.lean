import Scaffold.Page.Widget
import Scaffold.Proofs.Page.Themed

/-!
# The pieces of a page are themed

One fact for each piece, proved as the piece is built up.
-/

namespace Scaffold

open ThemedElement (start)

/-! ### Icons -/

namespace Icon

theorem plain_shield : Plain shield := .append (.append (.lit rfl) (.lit rfl)) (.lit rfl)

theorem plain_chart : Plain chart := .append (.append (.lit rfl) (.lit rfl)) (.lit rfl)

theorem plain_users : Plain users := .append (.append (.lit rfl) (.lit rfl)) (.lit rfl)

theorem plain_home : Plain home := .append (.lit rfl) (.lit rfl)

theorem plain_cog : Plain cog :=
  .append (.append (.append (.append (.append (.append (.lit rfl) (.lit rfl)) (.lit rfl))
    (.lit rfl)) (.lit rfl)) (.lit rfl)) (.lit rfl)

theorem plain_pencil : Plain pencil := .append (.lit rfl) (.lit rfl)

theorem plain_trash : Plain trash := .append (.lit rfl) (.lit rfl)

end Icon

/-! ### Pieces -/

namespace Widget

variable {P : (Look → String) → Prop}

theorem themed_icon {path size : String} (hpath : Plain path) (hsize : Plain size) :
    ThemedElement P true fun _ => icon path size :=
  start rfl
    |>.classes (.fixed hsize)
    |>.attr rfl (.lit rfl)
    |>.attr rfl (.lit rfl)
    |>.attr rfl (.lit rfl)
    |>.attr rfl (.lit rfl)
    |>.child (start rfl |>.stroke (.lit rfl) |>.attr rfl hpath)

theorem themed_container : ThemedElement P true fun _ => container :=
  start rfl |>.classes (.lit rfl)

theorem themed_brand : ThemedElement KeepsNeutral true brand :=
  start rfl
    |>.attr rfl (.lit rfl)
    |>.classes (.lit rfl)
    |>.text .appName

theorem themed_primaryButton {label : String} (h : Plain label) :
    ThemedElement KeepsNeutral true fun look => primaryButton look label :=
  start rfl
    |>.attr rfl (.lit rfl)
    |>.classes (.look (.append (.append (.lit rfl) (.lit rfl)) (.lit rfl)) (.lit rfl))
    |>.text (.fixed h)

theorem themed_secondaryButton {label : String} (h : Plain label) :
    ThemedElement KeepsNeutral true fun look => secondaryButton look label :=
  start rfl
    |>.attr rfl (.lit rfl)
    |>.classes (.look (.append (.lit rfl) (.lit rfl)) (.lit rfl))
    |>.text (.fixed h)

theorem themed_header {links : List String} (h : ∀ link ∈ links, Plain link) :
    ThemedElement KeepsNeutral true fun look => header look links :=
  start rfl
    |>.classes (.look (.lit rfl) (.lit rfl))
    |>.child (themed_container
      |>.child (start rfl
        |>.classes (.lit rfl)
        |>.child themed_brand
        |>.child (start rfl |>.classes (.lit rfl) |>.elements fun link hlink =>
          start rfl
            |>.attr rfl (.lit rfl)
            |>.classes (.look (.lit rfl) (.lit rfl))
            |>.text (.fixed (h link hlink)))
        |>.child (themed_primaryButton (.lit rfl))))

theorem themed_footer : ThemedElement KeepsNeutral true footer :=
  start rfl
    |>.classes (.look (.lit rfl) (.lit rfl))
    |>.child (themed_container
      |>.child (start rfl
        |>.classes (.look (.lit rfl) (.lit rfl))
        |>.text (.trail (.lead (.lit rfl) .appName) (.lit rfl))))

theorem themed_heading {eyebrow title lead : String} (heyebrow : Plain eyebrow)
    (htitle : Plain title) (hlead : Plain lead) :
    ThemedElement KeepsNeutral true fun look => heading look eyebrow title lead :=
  start rfl
    |>.classes (.lit rfl)
    |>.child (start rfl |>.classes (.lit rfl) |>.text (.fixed heyebrow))
    |>.child (start rfl |>.classes (.lit rfl) |>.text (.fixed htitle))
    |>.child (start rfl |>.classes (.look (.lit rfl) (.lit rfl)) |>.text (.fixed hlead))

theorem themed_styledCard {extra : String} (h : Plain extra) :
    ThemedElement P true fun look => styledCard look extra :=
  start rfl |>.classes (.look (.trimEnd (.append (.lit rfl) h)) (.lit rfl))

theorem themed_card : ThemedElement P true card := themed_styledCard (.lit rfl)

theorem themed_field {id label kind placeholder : String} (hid : Plain id) (hlabel : Plain label)
    (hkind : Plain kind) (hplaceholder : Plain placeholder) :
    ThemedElement KeepsNeutral false fun look => field look id label kind placeholder :=
  start rfl
    |>.child (start rfl
      |>.labelFor hid
      |>.classes (.look (.lit rfl) (.lit rfl))
      |>.text (.fixed hlabel))
    |>.child (start rfl
      |>.attr rfl hid
      |>.attr rfl hid
      |>.attr rfl hkind
      |>.attr rfl hplaceholder
      |>.classes (.look (.append (.lit rfl) (.lit rfl)) (.lit rfl))
      |>.flag rfl)

theorem themed_checkbox {id label : String} (hid : Plain id) (hlabel : Plain label) :
    ThemedElement KeepsNeutral true fun look => checkbox look id label :=
  start rfl
    |>.classes (.lit rfl)
    |>.child (start rfl
      |>.attr rfl hid
      |>.attr rfl hid
      |>.attr rfl (.lit rfl)
      |>.classes (.lit rfl))
    |>.child (start rfl
      |>.labelFor hid
      |>.classes (.look (.lit rfl) (.lit rfl))
      |>.text (.fixed hlabel))

theorem themed_badge {label tone : String} (hlabel : Plain label) (htone : Plain tone) :
    ThemedElement KeepsNeutral true fun _ => badge label tone :=
  start rfl |>.classes (.fixed (.append (.lit rfl) htone)) |>.text (.fixed hlabel)

theorem themed_tickedItem {label : String} (h : Plain label) :
    ThemedElement KeepsNeutral true fun look => tickedItem look label :=
  start rfl
    |>.classes (.lit rfl)
    |>.child (themed_icon (.lit rfl) (.lit rfl))
    |>.child (start rfl |>.classes (.look (.lit rfl) (.lit rfl)) |>.text (.fixed h))

end Widget

/-! ### Pages -/

/-- An element with dark classes of its own around themed nodes. -/
inductive ThemedPage (P : (Look → String) → Prop) : (Look → Node) → Prop
  | intro {tag base dark : String} {children : Look → List Node} (htag : Plain tag)
    (hbase : Plain base) (hdark : DarkList dark) (hchildren : Themed P children) :
    ThemedPage P fun look =>
      .element tag [⟨.classList, some (look.classes base dark)⟩] (children look)

namespace ThemedPage

variable {P Q : (Look → String) → Prop} {page : Look → Node}

theorem shell {children : Look → List Node} (h : Themed P children) :
    ThemedPage P fun look => (Widget.shell look (children look)).toNode :=
  .intro (.lit rfl) (.lit rfl) (.lit rfl) h

theorem themed (h : ThemedPage P page) : Themed P fun look => [page look] := by
  cases h with
  | intro htag hbase hdark hchildren =>
    exact .element htag (.classes (List.forall_mem_nil _) (.look hbase hdark)
      (List.forall_mem_nil _)) hchildren .nil

theorem imp (hPQ : ∀ content, P content → Q content) (h : ThemedPage P page) :
    ThemedPage Q page := by
  cases h with
  | intro htag hbase hdark hchildren => exact .intro htag hbase hdark (hchildren.imp hPQ)

end ThemedPage

end Scaffold
