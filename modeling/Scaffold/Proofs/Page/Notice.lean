import Scaffold.Page.Notice
import Scaffold.Proofs.Page.Widget

/-!
# The pages without content are themed

The placeholder shows a name that may be any text, so it is themed only as far as that text is.
-/

namespace Scaffold

open ThemedElement (start)

/-! ### The page for what is not found -/

namespace Page.NotFound

theorem themed_wayBack : ThemedElement KeepsNeutral true wayBack :=
  start rfl
    |>.attr rfl (.lit rfl)
    |>.classes (.fixed (.append (.lit rfl) (.lit rfl)))
    |>.text (.lead (.lit rfl) .appName)
    |>.child (Widget.themed_icon (.lit rfl) (.lit rfl))

theorem themed_body : ThemedPage KeepsNeutral body :=
  .shell <|
    .cons (start rfl
      |>.classes (.lit rfl)
      |>.child (start rfl |>.classes (.lit rfl) |>.text (.lit rfl))
      |>.child (start rfl |>.classes (.lit rfl) |>.text (.lit rfl))
      |>.child (start rfl |>.classes (.look (.lit rfl) (.lit rfl)) |>.text (.lit rfl))
      |>.child (start rfl
        |>.classes (.lit rfl)
        |>.child themed_wayBack
        |>.child (start rfl
          |>.attr rfl (.lit rfl)
          |>.classes (.look (.lit rfl) (.lit rfl))
          |>.text (.lit rfl))))
      .nil

end Page.NotFound

/-! ### The page for a name without a body -/

namespace Page

/-- What the placeholder shows is any text, so `P` must hold of it. -/
theorem themed_placeholder {P : (Look → String) → Prop} {name : String}
    (htitle : P fun _ => PageName.title name)
    (hnotice : P fun look =>
      "Template \"" ++ name ++ "\" is not available in " ++ look.appName ++ ".") :
    ThemedPage P (placeholder name) :=
  .shell <|
    .cons (start rfl
      |>.classes (.lit rfl)
      |>.child (start rfl |>.classes (.lit rfl) |>.text htitle)
      |>.child (start rfl |>.classes (.look (.lit rfl) (.lit rfl)) |>.text hnotice))
      .nil

theorem showsName_placeholder (name : String) : ThemedPage ShowsName (placeholder name) :=
  themed_placeholder (fun _ _ _ => rfl) fun look look' h => by simp only [h]

/-- No keyword goes across a quote or a blank. -/
theorem keepsNeutral_placeholder {name : String} (hname : KeywordFree htmlSpellings name.toList)
    (htitle : KeywordFree htmlSpellings (PageName.title name).toList) :
    ThemedPage KeepsNeutral (placeholder name) := by
  refine themed_placeholder ⟨fun _ _ _ => rfl, fun _ _ => htitle⟩
    ⟨fun look look' h => by simp only [h], fun look happ => ?_⟩
  have hlead : KeywordFree htmlSpellings "Template ".toList := keywordFree_of_plain (Plain.lit rfl)
  have htold : KeywordFree htmlSpellings " is not available in".toList :=
    keywordFree_of_plain (Plain.lit rfl)
  have hnothing : KeywordFree htmlSpellings [] := by decide
  have hwhole : KeywordFree htmlSpellings ("Template ".toList ++ '"' :: (name.toList ++ '"' ::
      (" is not available in".toList ++ ' ' :: (look.appName.toList ++ '.' :: [])))) :=
    hlead.append_cons (by decide) <| hname.append_cons (by decide) <|
      htold.append_cons (by decide) <| happ.append_cons (by decide) hnothing
  simpa using hwhole

end Page

end Scaffold
