import Scaffold.Archetype
import Scaffold.Page.Account
import Scaffold.Page.Marketing
import Scaffold.Page.Notice
import Scaffold.Page.Workspace

/-!
# The standard bodies
-/

namespace Scaffold.Page

/-- The body of each archetype. -/
def standardBody (archetype : Archetype) (look : Look) : Node :=
  match archetype with
  | .landing => Landing.body look
  | .dashboard => Dashboard.body look
  | .authLogin => Auth.login look
  | .authSignup => Auth.signup look
  | .pricing => Pricing.body look
  | .settings => Settings.body look
  | .crudTable => CrudTable.body look
  | .blogList => BlogList.body look
  | .onboarding => Onboarding.body look
  | .error404 => NotFound.body look

end Scaffold.Page
