import Scaffold.BodyTable
import Scaffold.Proofs.Page.Account
import Scaffold.Proofs.Page.Marketing
import Scaffold.Proofs.Page.Notice
import Scaffold.Proofs.Page.Workspace

/-!
# The standard bodies are themed

One page for each archetype.
-/

namespace Scaffold

theorem Page.themed_standardBody (archetype : Archetype) :
    ThemedPage KeepsNeutral (standardBody archetype) := by
  cases archetype with
  | landing => exact Landing.themed_body
  | dashboard => exact Dashboard.themed_body
  | authLogin => exact Auth.themed_login
  | authSignup => exact Auth.themed_signup
  | pricing => exact Pricing.themed_body
  | settings => exact Settings.themed_body
  | crudTable => exact CrudTable.themed_body
  | blogList => exact BlogList.themed_body
  | onboarding => exact Onboarding.themed_body
  | error404 => exact NotFound.themed_body

namespace BodyTable

theorem standard_body_known (archetype : Archetype) :
    standard.body (.known archetype) = Page.standardBody archetype := by
  cases archetype <;> rfl

/-- Whatever the name, only dark classes and the name of the application depend on the look. -/
theorem showsName_standard_body (archetype : ArchetypeName) :
    ThemedPage ShowsName (standard.body archetype) := by
  cases archetype with
  | known archetype =>
    rw [standard_body_known]
    exact (Page.themed_standardBody archetype).imp fun _ h => h.showsName
  | unknown name => exact Page.showsName_placeholder name

end BodyTable

end Scaffold
