/-!
# How a page looks
-/

namespace Scaffold

/-- The name a page shows when it is given none. -/
def unnamedApp : String := "My App"

/-- What a page shows of its application, and whether in the dark. -/
structure Look where
  /-- Shown as it is wherever the page carries its brand. -/
  appName : String := unnamedApp
  darkMode : Bool := false
  deriving DecidableEq, Repr

/-- The classes of an element with a look of its own in the dark: `dark` is added in dark mode,
and each class in it starts with `dark:`. -/
def Look.classes (look : Look) (base dark : String) : String :=
  if look.darkMode then base ++ " " ++ dark else base

end Scaffold
