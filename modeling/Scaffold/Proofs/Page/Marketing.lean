import Scaffold.Page.Marketing
import Scaffold.Proofs.Page.Widget

/-!
# The pages for visitors are themed

Every page is a shell around themed parts. The data of a page, its features or plans or posts, is
gone through item by item.
-/

namespace Scaffold

open ThemedElement (start)

/-! ### The landing page -/

namespace Page.Landing

theorem themed_hero : ThemedElement KeepsNeutral true hero :=
  start rfl
    |>.classes (.lit rfl)
    |>.child (Widget.themed_container
      |>.child (start rfl
        |>.classes (.lit rfl)
        |>.child (Widget.themed_badge (.lit rfl) (.lit rfl))
        |>.child (start rfl |>.classes (.lit rfl) |>.text (.lead (.lit rfl) .appName))
        |>.child (start rfl
          |>.classes (.look (.lit rfl) (.lit rfl))
          |>.text (.fixed (.append (.lit rfl) (.lit rfl))))
        |>.child (start rfl
          |>.classes (.lit rfl)
          |>.child (Widget.themed_primaryButton (.lit rfl))
          |>.child (Widget.themed_secondaryButton (.lit rfl)))))

theorem themed_featureCard {feature : Feature} (hicon : Plain feature.icon)
    (htitle : Plain feature.title) (hcopy : Plain feature.copy) :
    ThemedElement KeepsNeutral true fun look => featureCard look feature :=
  Widget.themed_card
    |>.child (start rfl
      |>.classes (.lit rfl)
      |>.child (Widget.themed_icon hicon (.lit rfl)))
    |>.child (start rfl |>.classes (.lit rfl) |>.text (.fixed htitle))
    |>.child (start rfl |>.classes (.look (.lit rfl) (.lit rfl)) |>.text (.fixed hcopy))

theorem themed_features :
    ∀ feature ∈ features, ThemedElement KeepsNeutral true fun look => featureCard look feature := by
  simp only [features, List.forall_mem_cons]
  exact ⟨themed_featureCard (.lit rfl) (.lit rfl) (.lit rfl),
    themed_featureCard Icon.plain_shield (.lit rfl) (.lit rfl),
    themed_featureCard Icon.plain_chart (.lit rfl) (.lit rfl), by simp⟩

theorem themed_featureSection : ThemedElement KeepsNeutral true featureSection :=
  start rfl
    |>.attr rfl (.lit rfl)
    |>.classes (.look (.lit rfl) (.lit rfl))
    |>.child (Widget.themed_container
      |>.child (Widget.themed_heading (.lit rfl) (.lit rfl) (.lit rfl))
      |>.child (start rfl |>.classes (.lit rfl) |>.elements themed_features))

theorem themed_testimonial : ThemedElement KeepsNeutral true testimonial :=
  start rfl
    |>.classes (.lit rfl)
    |>.child (Widget.themed_container
      |>.child (start rfl
        |>.classes (.lit rfl)
        |>.child (start rfl
          |>.classes (.lit rfl)
          |>.child (start rfl |>.text (.trail (.lead (.lit rfl) .appName) (.lit rfl))))
        |>.child (start rfl |>.classes (.look (.lit rfl) (.lit rfl)) |>.text (.lit rfl))))

theorem themed_callToAction : ThemedElement KeepsNeutral true fun _ => callToAction :=
  start rfl
    |>.classes (.lit rfl)
    |>.child (Widget.themed_container
      |>.child (start rfl
        |>.classes (.lit rfl)
        |>.child (start rfl |>.classes (.lit rfl) |>.text (.lit rfl))
        |>.child (start rfl
          |>.attr rfl (.lit rfl)
          |>.classes (.fixed (.append (.lit rfl) (.lit rfl)))
          |>.text (.lit rfl)
          |>.child (Widget.themed_icon (.lit rfl) (.lit rfl)))))

theorem themed_body : ThemedPage KeepsNeutral body := by
  have hlinks : ∀ link ∈ ["Features", "Pricing", "Customers", "Docs"], Plain link := by
    simp only [List.forall_mem_cons]
    exact ⟨.lit rfl, .lit rfl, .lit rfl, .lit rfl, by simp⟩
  exact .shell <|
    .cons (Widget.themed_header hlinks) <|
    .cons (start rfl
      |>.comment rfl
      |>.child themed_hero
      |>.comment rfl
      |>.child themed_featureSection
      |>.comment rfl
      |>.child themed_testimonial
      |>.comment rfl
      |>.child themed_callToAction) <|
    .cons Widget.themed_footer .nil

end Page.Landing

/-! ### The pricing page -/

namespace Page.Pricing

theorem themed_planFrame (featured : Bool) :
    ThemedElement KeepsNeutral true fun look => planFrame look featured :=
  .ite
    (Widget.themed_styledCard (.lit rfl)
      |>.child (start rfl
        |>.classes (.lit rfl)
        |>.child (Widget.themed_badge (.lit rfl) (.lit rfl))))
    (Widget.themed_styledCard (.lit rfl))

theorem themed_planButton (featured : Bool) :
    ThemedElement KeepsNeutral true fun look => planButton look featured :=
  .ite (Widget.themed_primaryButton (.lit rfl)) (Widget.themed_secondaryButton (.lit rfl))

theorem themed_planCard {plan : Plan} (hname : Plain plan.name) (hprice : Plain plan.price)
    (hblurb : Plain plan.blurb) (hfeatures : ∀ feature ∈ plan.features, Plain feature) :
    ThemedElement KeepsNeutral true fun look => planCard look plan :=
  themed_planFrame plan.featured
    |>.child (start rfl |>.classes (.lit rfl) |>.text (.fixed hname))
    |>.child (start rfl |>.classes (.look (.lit rfl) (.lit rfl)) |>.text (.fixed hblurb))
    |>.child (start rfl
      |>.classes (.lit rfl)
      |>.child (start rfl |>.classes (.lit rfl) |>.text (.fixed hprice))
      |>.child (start rfl |>.classes (.look (.lit rfl) (.lit rfl)) |>.text (.lit rfl)))
    |>.child (start rfl
      |>.classes (.lit rfl)
      |>.elements fun feature hfeature => Widget.themed_tickedItem (hfeatures feature hfeature))
    |>.child (start rfl
      |>.classes (.lit rfl)
      |>.child (themed_planButton plan.featured))

theorem themed_offers :
    ∀ plan ∈ offers, ThemedElement KeepsNeutral true fun look => planCard look plan := by
  simp only [offers, List.forall_mem_cons]
  refine ⟨themed_planCard (.lit rfl) (.lit rfl) (.lit rfl) ?_,
    themed_planCard (.lit rfl) (.lit rfl) (.lit rfl) ?_,
    themed_planCard (.lit rfl) (.lit rfl) (.lit rfl) ?_, by simp⟩
  · simp only [List.forall_mem_cons]
    exact ⟨.lit rfl, .lit rfl, .lit rfl, by simp⟩
  · simp only [List.forall_mem_cons]
    exact ⟨.lit rfl, .lit rfl, .lit rfl, .lit rfl, by simp⟩
  · simp only [List.forall_mem_cons]
    exact ⟨.lit rfl, .lit rfl, .lit rfl, .lit rfl, by simp⟩

theorem themed_plans : ThemedElement KeepsNeutral true plans :=
  start rfl
    |>.classes (.lit rfl)
    |>.child (Widget.themed_container
      |>.child (start rfl
        |>.classes (.lit rfl)
        |>.child (start rfl |>.classes (.lit rfl) |>.text (.trail .appName (.lit rfl)))
        |>.child (start rfl |>.classes (.look (.lit rfl) (.lit rfl)) |>.text (.lit rfl)))
      |>.comment rfl
      |>.child (start rfl |>.classes (.lit rfl) |>.elements themed_offers))

theorem themed_questions : ThemedElement KeepsNeutral true questions :=
  start rfl
    |>.classes (.look (.lit rfl) (.lit rfl))
    |>.child (Widget.themed_container
      |>.child (Widget.themed_heading (.lit rfl) (.lit rfl) (.lit rfl)))

theorem themed_body : ThemedPage KeepsNeutral body := by
  have hlinks : ∀ link ∈ ["Product", "Pricing", "Docs"], Plain link := by
    simp only [List.forall_mem_cons]
    exact ⟨.lit rfl, .lit rfl, .lit rfl, by simp⟩
  exact .shell <|
    .cons (Widget.themed_header hlinks) <|
    .cons (start rfl |>.child themed_plans |>.child themed_questions) <|
    .cons Widget.themed_footer .nil

end Page.Pricing

/-! ### The blog page -/

namespace Page.BlogList

theorem themed_preview {post : Post} (htitle : Plain post.title) (hexcerpt : Plain post.excerpt)
    (hcategory : Plain post.category) (hdate : Plain post.date) (hauthor : Plain post.author) :
    ThemedElement KeepsNeutral true fun look => preview look post :=
  start rfl
    |>.classes (.lit rfl)
    |>.child (start rfl
      |>.classes (.lit rfl)
      |>.child (start rfl |>.classes (.look (.lit rfl) (.lit rfl)) |>.text (.fixed hdate))
      |>.child (Widget.themed_badge hcategory (.lit rfl)))
    |>.child (start rfl
      |>.classes (.lit rfl)
      |>.child (start rfl |>.attr rfl (.lit rfl) |>.text (.fixed htitle)))
    |>.child (start rfl |>.classes (.look (.lit rfl) (.lit rfl)) |>.text (.fixed hexcerpt))
    |>.child (start rfl
      |>.classes (.lit rfl)
      |>.text (.fixed (.append (.lit rfl) hauthor)))

theorem themed_posts :
    ∀ post ∈ posts, ThemedElement KeepsNeutral true fun look => preview look post := by
  simp only [posts, List.forall_mem_cons]
  exact ⟨themed_preview (.lit rfl) (.lit rfl) (.lit rfl) (.lit rfl) (.lit rfl),
    themed_preview (.lit rfl) (.lit rfl) (.lit rfl) (.lit rfl) (.lit rfl),
    themed_preview (.lit rfl) (.lit rfl) (.lit rfl) (.lit rfl) (.lit rfl), by simp⟩

theorem themed_title : ThemedElement KeepsNeutral true title :=
  start rfl
    |>.classes (.lit rfl)
    |>.child (start rfl
      |>.classes (.lit rfl)
      |>.text (.trail (.lead (.lit rfl) .appName) (.lit rfl)))
    |>.child (start rfl |>.classes (.look (.lit rfl) (.lit rfl)) |>.text (.lit rfl))

theorem themed_body : ThemedPage KeepsNeutral body := by
  have hlinks : ∀ link ∈ ["Blog", "Changelog", "About"], Plain link := by
    simp only [List.forall_mem_cons]
    exact ⟨.lit rfl, .lit rfl, .lit rfl, by simp⟩
  exact .shell <|
    .cons (Widget.themed_header hlinks) <|
    .cons (start rfl
      |>.classes (.lit rfl)
      |>.child (Widget.themed_container
        |>.child themed_title
        |>.comment rfl
        |>.child (start rfl
          |>.classes (.look (.append (.lit rfl) (.lit rfl)) (.lit rfl))
          |>.elements themed_posts)
        |>.child (start rfl
          |>.classes (.lit rfl)
          |>.child (Widget.themed_secondaryButton (.lit rfl))))) <|
    .cons Widget.themed_footer .nil

end Page.BlogList

end Scaffold
