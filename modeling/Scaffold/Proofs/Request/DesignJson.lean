import Scaffold.Design
import Scaffold.Proofs.Json.Places

/-!
# Designs in JSON

What JSON means as a design (`Design.MeantBy`): colours and a font under their keys, each with its
default where it is absent. A design is read just from the JSON that means it
(`Design.ofJson_eq_ok_iff`), and from any JSON of the right shape in which no field occurs twice
(`Design.takenBy_ofJson`).
-/

namespace Scaffold

/-- So many more levels of nesting may be opened. -/
def Source.Allows : Source → Nat → Prop
  | .value, _ => True
  | .text levels, wanted => wanted ≤ levels

theorem Source.Allows.exists_enter {source : Source} {wanted : Nat}
    (h : source.Allows (wanted + 1)) :
    ∃ inner, source.enter = .ok inner ∧ inner.Allows wanted := by
  match source with
  | .value => exact ⟨.value, rfl, trivial⟩
  | .text 0 => exact absurd h (Nat.not_succ_le_zero wanted)
  | .text (levels + 1) => exact ⟨.text levels, rfl, Nat.le_of_succ_le_succ h⟩

/-- The place of a text. -/
def Place.text {σ : Type} (key : String) (get : σ → Option String) (set : String → σ → σ) :
    Place σ String where
  key := key
  read := fun _ json => json.readStr
  get := get
  set := set

theorem Json.HeldAs.settles_text_iff {values : List Json} {held : Option String}
    (h : HeldAs readStr values held) {default text : String} :
    Settles (· = .str ·) default values text ↔ held.getD default = text :=
  h.settles_iff fun _ _ _ => readStr_eq_ok_iff

theorem Json.Settles.exists_heldAs_text {values : List Json} {default text : String}
    (h : Settles (· = .str ·) default values text) : ∃ held, HeldAs readStr values held :=
  h.exists_heldAs fun _ _ _ => readStr_eq_ok_iff

variable {source inner : Source} {json : Json} {members : List (String × Json)}

/-! ### Palettes -/

namespace Palette

def shape : Shape :=
  .record [(["primary"], .text), (["background"], .text), (["foreground"], .text)]

/-- What members mean as a palette. -/
structure ReadFrom (members : List (String × Json)) (p : Palette) : Prop where
  primary : Json.Settles (· = .str ·) ({} : Palette).primary (Json.given ["primary"] members)
    p.primary
  background : Json.Settles (· = .str ·) ({} : Palette).background
    (Json.given ["background"] members) p.background
  foreground : Json.Settles (· = .str ·) ({} : Palette).foreground
    (Json.given ["foreground"] members) p.foreground

def MeantBy (json : Json) (p : Palette) : Prop :=
  ∃ members, json.HasMembers [["primary"], ["background"], ["foreground"]] members ∧
    p.ReadFrom members

def parts : List ((Σ β, Place Partial β) × Shape) := [
  (⟨_, .text "primary" (·.primary) fun text read => { read with primary := some text }⟩, .text),
  (⟨_, .text "background" (·.background) fun text read =>
    { read with background := some text }⟩, .text),
  (⟨_, .text "foreground" (·.foreground) fun text read =>
    { read with foreground := some text }⟩, .text)]

theorem form_hasPlaces : form.HasPlaces (parts.map (·.1)) where
  fields_eq := rfl
  nodup := by decide
  vacant := by simp [parts, Place.text, form]
  get_set := by simp [parts, Place.text]
  apart := by
    simp only [parts, List.map_cons, List.map_nil, List.pairwise_cons, List.forall_mem_cons,
      List.not_mem_nil, false_implies, implies_true, and_true, List.Pairwise.nil]
    refine ⟨⟨?_, ?_⟩, ?_⟩
    all_goals exact ⟨fun _ _ => rfl, fun _ _ => rfl, fun _ _ _ => rfl⟩

theorem takenBy_ofJson (hsource : source.Allows 1) : Json.TakenBy (ofJson source) shape := by
  obtain ⟨inner, henter, -⟩ := hsource.exists_enter
  refine form_hasPlaces.takenBy_read rfl henter (fun s => ⟨_, rfl⟩) ?_
  simp only [parts, List.forall_mem_cons]
  exact ⟨Json.takenBy_readStr, Json.takenBy_readStr, Json.takenBy_readStr, nofun⟩

theorem respectedBy_ofJson (hsource : source.Allows 1) :
    Json.RespectedBy (ofJson source) shape := by
  obtain ⟨inner, henter, -⟩ := hsource.exists_enter
  refine form_hasPlaces.respectedBy_read rfl henter ?_ ?_
  · rintro ⟨primary, background, foreground⟩ ⟨primary', background', foreground'⟩ hget
    simpa [parts, Place.text] using hget
  · simp only [parts, List.forall_mem_cons]
    exact ⟨Json.respectedBy_readStr, Json.respectedBy_readStr, Json.respectedBy_readStr, nofun⟩

/-- A palette is read just from what means it. -/
theorem ofJson_eq_ok_iff (hsource : source.Allows 1) (hskip : json.skip = .closed) {p : Palette} :
    ofJson source json = .ok p ↔ MeantBy json p := by
  obtain ⟨inner, henter, -⟩ := hsource.exists_enter
  refine form_hasPlaces.read_eq_ok_iff_meant rfl henter ?_ ?_ hskip
  · intro members s p _ hplaces
    simp only [parts, List.map_cons, List.map_nil, List.forall_mem_cons] at hplaces
    obtain ⟨hprimary, hbackground, hforeground, -⟩ := hplaces
    constructor
    · rintro ⟨⟩
      exact ⟨hprimary.settles_text_iff.mpr rfl, hbackground.settles_text_iff.mpr rfl,
        hforeground.settles_text_iff.mpr rfl⟩
    · obtain ⟨primary, background, foreground⟩ := p
      intro h
      obtain rfl := hprimary.settles_text_iff.mp h.primary
      obtain rfl := hbackground.settles_text_iff.mp h.background
      obtain rfl := hforeground.settles_text_iff.mp h.foreground
      rfl
  · intro members p _ h
    simp only [parts, List.map_cons, List.map_nil, List.forall_mem_cons]
    exact ⟨h.primary.exists_heldAs_text, h.background.exists_heldAs_text,
      h.foreground.exists_heldAs_text, nofun⟩

end Palette

/-! ### Typography -/

namespace Typography

def shape : Shape := .record [(["fontFamily"], .text)]

/-- What members mean as a typography. -/
def ReadFrom (members : List (String × Json)) (t : Typography) : Prop :=
  Json.Settles (· = .str ·) ({} : Typography).fontFamily (Json.given ["fontFamily"] members)
    t.fontFamily

def MeantBy (json : Json) (t : Typography) : Prop :=
  ∃ members, json.HasMembers [["fontFamily"]] members ∧ t.ReadFrom members

def parts : List ((Σ β, Place (Option String) β) × Shape) :=
  [(⟨_, .text "fontFamily" id fun text _ => some text⟩, .text)]

theorem form_hasPlaces : form.HasPlaces (parts.map (·.1)) where
  fields_eq := rfl
  nodup := by decide
  vacant := by simp [parts, Place.text, form]
  get_set := by simp [parts, Place.text]
  apart := List.pairwise_singleton _ _

theorem takenBy_ofJson (hsource : source.Allows 1) : Json.TakenBy (ofJson source) shape := by
  obtain ⟨inner, henter, -⟩ := hsource.exists_enter
  refine form_hasPlaces.takenBy_read rfl henter (fun s => ⟨_, rfl⟩) ?_
  exact List.forall_mem_singleton.mpr Json.takenBy_readStr

theorem respectedBy_ofJson (hsource : source.Allows 1) :
    Json.RespectedBy (ofJson source) shape := by
  obtain ⟨inner, henter, -⟩ := hsource.exists_enter
  refine form_hasPlaces.respectedBy_read rfl henter (fun s t hget => hget _ (.head _)) ?_
  exact List.forall_mem_singleton.mpr Json.respectedBy_readStr

/-- A typography is read just from what means it. -/
theorem ofJson_eq_ok_iff (hsource : source.Allows 1) (hskip : json.skip = .closed)
    {t : Typography} : ofJson source json = .ok t ↔ MeantBy json t := by
  obtain ⟨inner, henter, -⟩ := hsource.exists_enter
  refine form_hasPlaces.read_eq_ok_iff_meant rfl henter ?_ ?_ hskip
  · intro members s t _ hplaces
    have hfont := hplaces _ (.head _)
    constructor
    · rintro ⟨⟩
      exact hfont.settles_text_iff.mpr rfl
    · obtain ⟨fontFamily⟩ := t
      intro h
      obtain rfl := hfont.settles_text_iff.mp h
      rfl
  · intro members t _ h
    exact List.forall_mem_singleton.mpr h.exists_heldAs_text

end Typography

/-! ### Designs -/

namespace Design

def shape : Shape :=
  .record [(["colorPalette"], Palette.shape), (["typography"], Typography.shape)]

/-- What members mean as a design. -/
structure ReadFrom (members : List (String × Json)) (d : Design) : Prop where
  palette : Json.Settles Palette.MeantBy {} (Json.given ["colorPalette"] members) d.palette
  typography : Json.Settles Typography.MeantBy {} (Json.given ["typography"] members) d.typography

def MeantBy (json : Json) (d : Design) : Prop :=
  ∃ members, json.HasMembers [["colorPalette"], ["typography"]] members ∧ d.ReadFrom members

def parts : List ((Σ β, Place Partial β) × Shape) := [
  (⟨_, { key := "colorPalette", read := Palette.ofJson, get := (·.palette)
         set := fun palette read => { read with palette := some palette } }⟩, Palette.shape),
  (⟨_, { key := "typography", read := Typography.ofJson, get := (·.typography)
         set := fun typography read => { read with typography := some typography } }⟩,
    Typography.shape)]

theorem form_hasPlaces : form.HasPlaces (parts.map (·.1)) where
  fields_eq := rfl
  nodup := by decide
  vacant := by simp [parts, form]
  get_set := by simp [parts]
  apart := List.pairwise_pair.mpr ⟨fun _ _ => rfl, fun _ _ => rfl, fun _ _ _ => rfl⟩

/-- Any JSON of the right shape is taken for a design unless a field occurs twice in it. -/
theorem takenBy_ofJson (hsource : source.Allows 2) : Json.TakenBy (ofJson source) shape := by
  obtain ⟨inner, henter, hinner⟩ := hsource.exists_enter
  refine form_hasPlaces.takenBy_read rfl henter (fun s => ⟨_, rfl⟩) ?_
  simp only [parts, List.forall_mem_cons]
  exact ⟨Palette.takenBy_ofJson hinner, Typography.takenBy_ofJson hinner, nofun⟩

theorem respectedBy_ofJson (hsource : source.Allows 2) :
    Json.RespectedBy (ofJson source) shape := by
  obtain ⟨inner, henter, hinner⟩ := hsource.exists_enter
  refine form_hasPlaces.respectedBy_read rfl henter ?_ ?_
  · rintro ⟨palette, typography⟩ ⟨palette', typography'⟩ hget
    simpa [parts] using hget
  · simp only [parts, List.forall_mem_cons]
    exact ⟨Palette.respectedBy_ofJson hinner, Typography.respectedBy_ofJson hinner, nofun⟩

/-- A design is read just from what means it. -/
theorem ofJson_eq_ok_iff (hsource : source.Allows 2) (hskip : json.skip = .closed) {d : Design} :
    ofJson source json = .ok d ↔ MeantBy json d := by
  obtain ⟨inner, henter, hinner⟩ := hsource.exists_enter
  have hpalette : ∀ {members : List (String × Json)},
      (∀ member ∈ members, member.2.skip = .closed) →
      ∀ json ∈ Json.given ["colorPalette"] members, ∀ p,
        Palette.ofJson inner json = .ok p ↔ Palette.MeantBy json p := by
    intro members hvalues json hjson p
    exact Palette.ofJson_eq_ok_iff hinner (Json.skip_of_mem_given hvalues hjson)
  have htypography : ∀ {members : List (String × Json)},
      (∀ member ∈ members, member.2.skip = .closed) →
      ∀ json ∈ Json.given ["typography"] members, ∀ t,
        Typography.ofJson inner json = .ok t ↔ Typography.MeantBy json t := by
    intro members hvalues json hjson t
    exact Typography.ofJson_eq_ok_iff hinner (Json.skip_of_mem_given hvalues hjson)
  refine form_hasPlaces.read_eq_ok_iff_meant rfl henter ?_ ?_ hskip
  · intro members s d hvalues hplaces
    simp only [parts, List.map_cons, List.map_nil, List.forall_mem_cons] at hplaces
    obtain ⟨hheldPalette, hheldTypography, -⟩ := hplaces
    constructor
    · rintro ⟨⟩
      exact ⟨(hheldPalette.settles_iff (hpalette hvalues)).mpr rfl,
        (hheldTypography.settles_iff (htypography hvalues)).mpr rfl⟩
    · obtain ⟨palette, typography⟩ := d
      intro h
      obtain rfl := (hheldPalette.settles_iff (hpalette hvalues)).mp h.palette
      obtain rfl := (hheldTypography.settles_iff (htypography hvalues)).mp h.typography
      rfl
  · intro members d hvalues h
    simp only [parts, List.map_cons, List.map_nil, List.forall_mem_cons]
    exact ⟨h.palette.exists_heldAs (hpalette hvalues),
      h.typography.exists_heldAs (htypography hvalues), nofun⟩

end Design

end Scaffold
