import Scaffold.Json.Decode
import Scaffold.Text.Space

/-!
# Designs

Brand colours and a font. Only the document target shows them; a blank value stands for its
default.
-/

namespace Scaffold

structure Palette where
  primary : String := "#3b82f6"
  background : String := "#ffffff"
  foreground : String := "#0f172a"
  deriving DecidableEq, Repr

structure Typography where
  fontFamily : String := "Inter, system-ui, sans-serif"
  deriving DecidableEq, Repr

structure Design where
  palette : Palette := {}
  typography : Typography := {}
  deriving DecidableEq, Repr

/-- A value, or `fallback` when it is blank. A value that is not blank is kept untrimmed. -/
def orIfBlank (value fallback : String) : String :=
  if Text.isBlank value.toList then fallback else value

/-- The design with a default for every blank value. -/
def Design.filled (d : Design) : Design where
  palette := {
    primary := orIfBlank d.palette.primary ({} : Palette).primary
    background := orIfBlank d.palette.background ({} : Palette).background
    foreground := orIfBlank d.palette.foreground ({} : Palette).foreground }
  typography := { fontFamily := orIfBlank d.typography.fontFamily ({} : Typography).fontFamily }

/-! ### JSON -/

namespace Palette

def toJson (p : Palette) : Json :=
  .ofMembers [
    ("primary", .str p.primary),
    ("background", .str p.background),
    ("foreground", .str p.foreground)]

/-- What has been read of a palette. -/
structure Partial where
  primary : Option String := none
  background : Option String := none
  foreground : Option String := none

def form : Form Partial Palette where
  name := "ColorPalette"
  fields := [
    { key := "primary", isFilled := (·.primary.isSome)
      fill := fun _ json read => return { read with primary := some (← json.readStr) } },
    { key := "background", isFilled := (·.background.isSome)
      fill := fun _ json read => return { read with background := some (← json.readStr) } },
    { key := "foreground", isFilled := (·.foreground.isSome)
      fill := fun _ json read => return { read with foreground := some (← json.readStr) } }]
  least := 0
  blank := {}
  finish := fun read => .ok {
    primary := read.primary.getD ({} : Palette).primary
    background := read.background.getD ({} : Palette).background
    foreground := read.foreground.getD ({} : Palette).foreground }

def ofJson : Source → Json → Except DecodeError Palette := form.read

end Palette

namespace Typography

def toJson (t : Typography) : Json := .ofMembers [("fontFamily", .str t.fontFamily)]

def form : Form (Option String) Typography where
  name := "Typography"
  fields := [
    { key := "fontFamily", isFilled := (·.isSome)
      fill := fun _ json _ => some <$> json.readStr }]
  least := 0
  blank := none
  finish := fun read => .ok ⟨read.getD ({} : Typography).fontFamily⟩

def ofJson : Source → Json → Except DecodeError Typography := form.read

end Typography

namespace Design

def toJson (d : Design) : Json :=
  .ofMembers [("colorPalette", d.palette.toJson), ("typography", d.typography.toJson)]

/-- What has been read of a design. -/
structure Partial where
  palette : Option Palette := none
  typography : Option Typography := none

def form : Form Partial Design where
  name := "DesignContext"
  fields := [
    { key := "colorPalette", isFilled := (·.palette.isSome)
      fill := fun source json read =>
        return { read with palette := some (← Palette.ofJson source json) } },
    { key := "typography", isFilled := (·.typography.isSome)
      fill := fun source json read =>
        return { read with typography := some (← Typography.ofJson source json) } }]
  least := 0
  blank := {}
  finish := fun read => .ok ⟨read.palette.getD {}, read.typography.getD {}⟩

def ofJson : Source → Json → Except DecodeError Design := form.read

end Design

end Scaffold
