import Scaffold.Proofs.Json.Written
import Scaffold.Proofs.Request.DesignJson
import Scaffold.Request

/-!
# Requests in JSON

What the members of an object mean as a request (`Request.ReadFrom`), and that a text with such an
object reads as that request and no other (`Request.ofText_eq_ok_iff`). A text with known fields of
the right type is refused only for a name that is missing or a field that occurs twice
(`Request.ofText_eq_error_iff`). The main statement is `Request.ofText_object`.
-/

namespace Scaffold

/-- The text of a document is an object, and nothing is left behind it. -/
structure Document.IsObject (document : Document) (members : List (String × Json)) : Prop where
  value_eq : document.value = .ofMembers members
  skip_eq : (Json.ofMembers members).skip = .closed
  surplus_eq : document.surplus = false

theorem Document.isObject_text {members : List (String × Json)}
    (h : (Json.ofMembers members).HasNoNumber) (hskip : (Json.ofMembers members).skip = .closed) :
    (Document.ofText (Json.ofMembers members).text).IsObject members := by
  rw [Document.ofText_text h]
  exact ⟨rfl, hskip, rfl⟩

namespace Json

theorem readBool_eq_ok_iff {json : Json} {value : Bool} :
    json.readBool = .ok value ↔ json = .bool value := by
  cases json <;> simp [readBool]

theorem HeldAs.settles_flag_iff {values : List Json} {held : Option Bool}
    (h : HeldAs readBool values held) {default value : Bool} :
    Settles (· = .bool ·) default values value ↔ held.getD default = value :=
  h.settles_iff fun _ _ _ => readBool_eq_ok_iff

theorem Settles.exists_heldAs_flag {values : List Json} {default value : Bool}
    (h : Settles (· = .bool ·) default values value) : ∃ held, HeldAs readBool values held :=
  h.exists_heldAs fun _ _ _ => readBool_eq_ok_iff

/-- A place holds a text just if this is the one value given for it. -/
theorem HeldAs.eq_singleton_iff {values : List Json} {held : Option String}
    (h : HeldAs readStr values held) {text : String} :
    values = [.str text] ↔ held = some text := by
  cases h with
  | none => simp
  | one h =>
    rw [readStr_eq_ok_iff] at h
    simp [h]

theorem HeldAs.eq_nil_iff {β : Type} {read : Json → Except DecodeError β} {values : List Json}
    {held : Option β} (h : HeldAs read values held) : values = [] ↔ held = Option.none := by
  cases h <;> simp

end Json

namespace Request

def fields : List (List String × Shape) := [
  (["archetype"], .text),
  (["target"], .text),
  (["darkMode"], .flag),
  (["appName", "applicationName"], .text),
  (["design", "designContext"], Design.shape)]

/-- What members mean as a request. -/
structure ReadFrom (members : List (String × Json)) (r : Request) : Prop where
  archetype : Json.given ["archetype"] members = [.str r.archetype]
  target : Json.given ["target"] members = [.str r.target]
  darkMode : Json.Settles (· = .bool ·) false (Json.given ["darkMode"] members) r.darkMode
  appName : Json.Settles (· = .str ·) "My App"
    (Json.given ["appName", "applicationName"] members) r.appName
  design : Json.Settles Design.MeantBy {} (Json.given ["design", "designContext"] members) r.design

def parts : List ((Σ β, Place Partial β) × Shape) := [
  (⟨_, .text "archetype" (·.archetype) fun text read =>
    { read with archetype := some text }⟩, .text),
  (⟨_, .text "target" (·.target) fun text read => { read with target := some text }⟩, .text),
  (⟨_, { key := "darkMode", read := fun _ json => json.readBool, get := (·.darkMode)
         set := fun value read => { read with darkMode := some value } }⟩, .flag),
  (⟨_, { key := "appName", otherKey := some "applicationName"
         read := fun _ json => json.readStr, get := (·.appName)
         set := fun text read => { read with appName := some text } }⟩, .text),
  (⟨_, { key := "design", otherKey := some "designContext", read := Design.ofJson
         get := (·.design), set := fun design read => { read with design := some design } }⟩,
    Design.shape)]

theorem form_hasPlaces : form.HasPlaces (parts.map (·.1)) where
  fields_eq := rfl
  nodup := by decide
  vacant := by simp [parts, Place.text, form]
  get_set := by simp [parts, Place.text]
  apart := by
    simp only [parts, List.map_cons, List.map_nil, List.pairwise_cons, List.forall_mem_cons,
      List.not_mem_nil, false_implies, implies_true, and_true, List.Pairwise.nil]
    refine ⟨⟨?_, ?_, ?_, ?_⟩, ⟨?_, ?_, ?_⟩, ⟨?_, ?_⟩, ?_⟩
    all_goals exact ⟨fun _ _ => rfl, fun _ _ => rfl, fun _ _ _ => rfl⟩

variable {source : Source} {text : String} {members : List (String × Json)}

/-- What the places hold of which a request is made. -/
structure Holds (source : Source) (members : List (String × Json)) (s : Partial) : Prop where
  archetype : Json.HeldAs Json.readStr (Json.given ["archetype"] members) s.archetype
  target : Json.HeldAs Json.readStr (Json.given ["target"] members) s.target
  darkMode : Json.HeldAs Json.readBool (Json.given ["darkMode"] members) s.darkMode
  appName : Json.HeldAs Json.readStr (Json.given ["appName", "applicationName"] members) s.appName
  design : Json.HeldAs (Design.ofJson source) (Json.given ["design", "designContext"] members)
    s.design

theorem holds_of_readMembers {s : Partial}
    (hread : form.readMembers source (Json.keyed members) form.blank = .ok s) :
    Holds source members s := by
  have hplaces := fun part hpart => form_hasPlaces.heldAs (p := part) hpart hread
    (form_hasPlaces.vacant part hpart)
  simp only [parts, List.map_cons, List.map_nil, List.forall_mem_cons] at hplaces
  obtain ⟨harchetype, htarget, hdark, hname, hdesign, -⟩ := hplaces
  exact ⟨harchetype, htarget, hdark, hname, hdesign⟩

theorem finish_eq_ok_iff {s : Partial} {r : Request} :
    form.finish s = .ok r ↔ s.archetype = some r.archetype ∧ s.target = some r.target ∧
      s.darkMode.getD false = r.darkMode ∧ s.appName.getD unnamedApp = r.appName ∧
      s.design.getD {} = r.design := by
  obtain ⟨archetype, target, darkMode, appName, design⟩ := s
  obtain ⟨archetype', target', darkMode', appName', design'⟩ := r
  cases archetype <;> cases target <;> simp [form]

/-- The levels of nesting that are left inside a request are enough for its design. -/
theorem allows_design : (Source.text 126).Allows 2 := Nat.le_of_ble_eq_true rfl

/-- A request is made of what its members fill in. -/
theorem ofText_eq_ok (h : (Document.ofText text).IsObject members) {r : Request} :
    ofText text = .ok r ↔ ∃ s,
      form.readMembers (.text 126) (Json.keyed members) form.blank = .ok s ∧
        form.finish s = .ok r := by
  obtain ⟨hvalue, -, hsurplus⟩ := h
  rw [ofText, Document.read, hvalue, hsurplus]
  change ((form.readMembers (.text 126) (Json.keyed members) form.blank >>= fun s =>
    form.finish s) >>= fun r => pure r) = _ ↔ _
  rw [bind_pure, bind_eq_ok_iff]

theorem design_eq_ok_iff (hsource : source.Allows 2)
    (hskip : ∀ member ∈ members, member.2.skip = .closed) :
    ∀ json ∈ Json.given ["design", "designContext"] members, ∀ d,
      Design.ofJson source json = .ok d ↔ Design.MeantBy json d :=
  fun _ hjson _ => Design.ofJson_eq_ok_iff hsource (Json.skip_of_mem_given hskip hjson)

theorem Holds.finish_eq_ok_iff {s : Partial} (h : Holds source members s)
    (hsource : source.Allows 2) (hskip : ∀ member ∈ members, member.2.skip = .closed)
    {r : Request} : form.finish s = .ok r ↔ r.ReadFrom members := by
  rw [Request.finish_eq_ok_iff, ← h.archetype.eq_singleton_iff, ← h.target.eq_singleton_iff,
    ← h.darkMode.settles_flag_iff, ← h.appName.settles_text_iff,
    ← h.design.settles_iff (design_eq_ok_iff hsource hskip)]
  exact ⟨fun ⟨ha, ht, hm, hn, hd⟩ => ⟨ha, ht, hm, hn, hd⟩,
    fun ⟨ha, ht, hm, hn, hd⟩ => ⟨ha, ht, hm, hn, hd⟩⟩

theorem ReadFrom.exists_readMembers {r : Request} (h : r.ReadFrom members)
    (hsource : source.Allows 2) (hskip : ∀ member ∈ members, member.2.skip = .closed) :
    ∃ s, form.readMembers source (Json.keyed members) form.blank = .ok s := by
  have harchetype : Json.HeldAs Json.readStr (Json.given ["archetype"] members)
      (some r.archetype) := by
    rw [h.archetype]
    exact .one rfl
  have htarget : Json.HeldAs Json.readStr (Json.given ["target"] members)
      (some r.target) := by
    rw [h.target]
    exact .one rfl
  refine (form_hasPlaces.exists_readMembers hskip).mpr ?_
  simp only [parts, List.map_cons, List.map_nil, List.forall_mem_cons]
  exact ⟨⟨_, harchetype⟩, ⟨_, htarget⟩, h.darkMode.exists_heldAs_flag,
    h.appName.exists_heldAs_text, h.design.exists_heldAs (design_eq_ok_iff hsource hskip), nofun⟩

/-- A request is read just from the members that mean it. -/
theorem ofText_eq_ok_iff (h : (Document.ofText text).IsObject members) {r : Request} :
    ofText text = .ok r ↔ r.ReadFrom members := by
  have hskip := Json.skip_of_skipMembers h.skip_eq
  rw [ofText_eq_ok h]
  constructor
  · rintro ⟨s, hread, hfinish⟩
    exact ((holds_of_readMembers hread).finish_eq_ok_iff allows_design hskip).mp hfinish
  · intro hr
    obtain ⟨s, hread⟩ := hr.exists_readMembers allows_design hskip
    exact ⟨s, hread, ((holds_of_readMembers hread).finish_eq_ok_iff allows_design hskip).mpr hr⟩

/-- Which of the texts with the same known fields is read makes no difference. -/
theorem ofText_of_alike {text' : String} {others : List (String × Json)}
    (h : (Document.ofText text).IsObject members) (h' : (Document.ofText text').IsObject others)
    (halike : Json.AlikeMembers fields members others) {r : Request} (hr : ofText text = .ok r) :
    ofText text' = .ok r := by
  obtain ⟨s, hread, hfinish⟩ := (ofText_eq_ok h).mp hr
  have hparts : ∀ part ∈ parts, Json.RespectedBy (part.1.2.read (.text 126)) part.2 := by
    simp only [parts, List.forall_mem_cons]
    exact ⟨Json.respectedBy_readStr, Json.respectedBy_readStr, Json.respectedBy_readBool,
      Json.respectedBy_readStr, Design.respectedBy_ofJson allows_design, nofun⟩
  obtain ⟨t, ht, hget⟩ := form_hasPlaces.exists_readMembers_of_alike hparts
    (Json.skip_of_skipMembers h'.skip_eq) halike hread
  -- the five places are all there is of a request that is being read
  have hsame : t = s := by
    obtain ⟨archetype, target, darkMode, appName, design⟩ := t
    obtain ⟨archetype', target', darkMode', appName', design'⟩ := s
    simpa [parts, Place.text] using hget
  rw [hsame] at ht
  exact (ofText_eq_ok h').mpr ⟨s, ht, hfinish⟩

/-- What the members say of a request can be told just if both names are there. -/
theorem Holds.exists_finish_iff {s : Partial} (h : Holds source members s) :
    (∃ r, form.finish s = .ok r) ↔
      Json.given ["archetype"] members ≠ [] ∧ Json.given ["target"] members ≠ [] := by
  rw [Ne, Ne, h.archetype.eq_nil_iff, h.target.eq_nil_iff]
  obtain ⟨archetype, target, darkMode, appName, design⟩ := s
  cases archetype <;> cases target <;> simp [form]

/-- Members of the right type are a request if both names are there and no field occurs twice. -/
theorem exists_ofText_eq_ok_iff (h : (Document.ofText text).IsObject members)
    (hfits : Json.Fits (.record fields) (.ofMembers members)) :
    (∃ r, ofText text = .ok r) ↔
      (Json.given ["archetype"] members ≠ [] ∧ Json.given ["target"] members ≠ []) ∧
        ¬Json.Repeats (.record fields) (.ofMembers members) := by
  have hobject : Json.HasMembers (fields.map (·.1)) (.ofMembers members) members := .object members
  have hfields : fields = parts.map fun part => (part.1.2.keys, part.2) := rfl
  have hparts : ∀ part ∈ parts, Json.TakenBy (part.1.2.read (.text 126)) part.2 := by
    simp only [parts, List.forall_mem_cons]
    exact ⟨Json.takenBy_readStr, Json.takenBy_readStr, Json.takenBy_readBool,
      Json.takenBy_readStr, Design.takenBy_ofJson allows_design, nofun⟩
  have hread := form_hasPlaces.exists_readMembers_iff hparts (Json.skip_of_skipMembers h.skip_eq)
    (List.forall_mem_map.mp (hfields ▸ hobject.fits_iff.mp hfits))
  rw [hobject.repeats_iff]
  simp only [hfields, List.mem_map, exists_exists_and_eq_and]
  rw [← hread]
  constructor
  · rintro ⟨r, hr⟩
    obtain ⟨s, hs, hfinish⟩ := (ofText_eq_ok h).mp hr
    exact ⟨(holds_of_readMembers hs).exists_finish_iff.mp ⟨r, hfinish⟩, s, hs⟩
  · rintro ⟨hnames, s, hs⟩
    obtain ⟨r, hfinish⟩ := (holds_of_readMembers hs).exists_finish_iff.mpr hnames
    exact ⟨r, (ofText_eq_ok h).mpr ⟨s, hs, hfinish⟩⟩

/-- Where known fields have the right type, a text is refused only for a name that is missing or a
field that occurs twice. -/
theorem ofText_eq_error_iff (h : (Document.ofText text).IsObject members)
    (hfits : Json.Fits (.record fields) (.ofMembers members)) :
    (∃ e, ofText text = .error e) ↔ Json.given ["archetype"] members = [] ∨
      Json.given ["target"] members = [] ∨ Json.Repeats (.record fields) (.ofMembers members) := by
  have hok := exists_ofText_eq_ok_iff h hfits
  have herror : (∃ e, ofText text = .error e) ↔ ¬∃ r, ofText text = .ok r := by
    cases ofText text <;> simp
  rw [herror, hok, not_and_or, not_and_or, not_not, not_not, not_not, or_assoc]

/-! ### What was written -/

theorem toJson_hasNoNumber (r : Request) : r.toJson.HasNoNumber := by
  have hpalette : r.design.palette.toJson.HasNoNumber := .obj <| by
    simp only [List.forall_mem_cons]
    exact ⟨.str _, .str _, .str _, nofun⟩
  have htypography : r.design.typography.toJson.HasNoNumber :=
    .obj (List.forall_mem_singleton.mpr (.str _))
  have hdesign : r.design.toJson.HasNoNumber := .obj <| by
    simp only [List.forall_mem_cons]
    exact ⟨hpalette, htypography, nofun⟩
  refine .obj ?_
  simp only [List.forall_mem_cons]
  exact ⟨.str _, .str _, .bool _, .str _, hdesign, nofun⟩

/-- A request is read back from its text. -/
theorem ofText_text (r : Request) : ofText r.toJson.text = .ok r := by
  exact (ofText_eq_ok_iff (Document.isObject_text r.toJson_hasNoNumber rfl)).mpr {
    archetype := rfl
    target := rfl
    darkMode := .given rfl
    appName := .given rfl
    design := .given ⟨_, .object _, .given ⟨_, .object _, .given rfl, .given rfl, .given rfl⟩,
      .given ⟨_, .object _, .given rfl⟩⟩ }

/-! ### All texts with an object -/

/-- What is written for a request is read as that request. A text with an object is read as what its
members mean; this lies in the values of the known fields, whatever the order of the members, the
choice between two keys and the unknown members (see `Json.alikeMembers_of_perm`); and known fields
of the right type fail to make a request just if a name is missing or a field occurs twice. -/
theorem ofText_object :
    (∀ r : Request, ofText r.toJson.text = .ok r) ∧
    ∀ text members, (Document.ofText text).IsObject members →
      (∀ r, ofText text = .ok r ↔ r.ReadFrom members) ∧
      (∀ text' members', (Document.ofText text').IsObject members' →
        Json.AlikeMembers fields members members' →
        ∀ r, ofText text = .ok r ↔ ofText text' = .ok r) ∧
      (Json.Fits (.record fields) (.ofMembers members) →
        ((∃ e, ofText text = .error e) ↔ Json.given ["archetype"] members = [] ∨
          Json.given ["target"] members = [] ∨
          Json.Repeats (.record fields) (.ofMembers members))) := by
  refine ⟨ofText_text, fun text members h => ⟨fun r => ofText_eq_ok_iff h, ?_,
    ofText_eq_error_iff h⟩⟩
  intro text' members' h' halike r
  exact ⟨ofText_of_alike h h' halike, ofText_of_alike h' h halike.symm⟩

/-- The other keys, in another order and with unknown ones between them; then a design under both of
its keys. -/
theorem ofText_object_aliases :
    let palette : Json := .ofItems [.str "#111827"]
    let members : List (String × Json) := [
      ("designContext", .ofMembers [("radius", .null), ("colorPalette", palette)]),
      ("applicationName", .str "Acme"), ("target", .str "vue"), ("version", .ofItems []),
      ("archetype", .str "login")]
    let others : List (String × Json) := [
      ("archetype", .str "login"), ("target", .str "vue"), ("appName", .str "Acme"),
      ("design", .ofMembers [("colorPalette", palette)])]
    let r : Request := {
      archetype := "login", target := "vue", appName := "Acme"
      design := { palette := { primary := "#111827" } } }
    ofText r.toJson.text = .ok r ∧ ofText (Json.ofMembers members).text = .ok r ∧
      ofText (Json.ofMembers others).text = .ok r ∧
      ∃ e, ofText (Json.ofMembers (("design", .ofMembers []) :: members)).text = .error e := by
  intro palette members others r
  have hpalette : palette.HasNoNumber := .arr (List.forall_mem_singleton.mpr (.str _))
  have hmembers : ∀ member ∈ members, member.2.HasNoNumber := by
    simp only [members, List.forall_mem_cons]
    exact ⟨.obj (by simpa using ⟨.null, hpalette⟩), .str _, .str _, .arr nofun, .str _, nofun⟩
  have hothers : ∀ member ∈ others, member.2.HasNoNumber := by
    simp only [others, List.forall_mem_cons]
    exact ⟨.str _, .str _, .str _, .obj (List.forall_mem_singleton.mpr hpalette), nofun⟩
  have hobject := Document.isObject_text (.obj hmembers) rfl
  have hobject' := Document.isObject_text (.obj hothers) rfl
  have hempty : (Json.ofMembers []).HasNoNumber := .obj nofun
  have htwice := @Document.isObject_text (("design", .ofMembers []) :: members)
    (.obj (List.forall_mem_cons.mpr ⟨hempty, hmembers⟩)) rfl
  have hprimary : palette.HasMembers [["primary"], ["background"], ["foreground"]]
      [("primary", .str "#111827")] :=
    @Json.HasMembers.array _ [("primary", .str "#111827")] (by decide)
  have hread : r.ReadFrom members := {
    archetype := rfl
    target := rfl
    darkMode := .absent
    appName := .given rfl
    design := .given ⟨_, .object _, .given ⟨_, hprimary, .given rfl, .absent, .absent⟩,
      .absent⟩ }
  have halike : Json.AlikeMembers fields members others := by
    simp only [Json.AlikeMembers, fields, List.forall_mem_cons]
    refine ⟨⟨[(.str "login", .str "login")], .refl _, .refl _, ?_⟩,
      ⟨[(.str "vue", .str "vue")], .refl _, .refl _, ?_⟩, ⟨[], .refl _, .refl _, nofun⟩,
      ⟨[(.str "Acme", .str "Acme")], .refl _, .refl _, ?_⟩,
      ⟨[(_, _)], .refl _, .refl _, ?_⟩, nofun⟩
    all_goals rw [List.forall_mem_singleton]
    · exact .refl _ _
    · exact .refl _ _
    · exact .refl _ _
    · have hunknown := @Json.alikeMembers_of_perm [(["colorPalette"], Palette.shape),
        (["typography"], Typography.shape)] [("colorPalette", palette)] _ [("radius", .null)]
        (.swap _ _ _) (by decide)
      exact hunknown.symm.alike (.object _) (.object _)
  have hfits : Json.Fits (.record fields) (.ofMembers (("design", .ofMembers []) :: members)) := by
    refine .record (.object _) ?_
    simp only [fields, List.forall_mem_cons]
    refine ⟨List.forall_mem_singleton.mpr (.text _), List.forall_mem_singleton.mpr (.text _), nofun,
      List.forall_mem_singleton.mpr (.text _),
      List.forall_mem_cons.mpr ⟨?_, List.forall_mem_singleton.mpr ?_⟩, nofun⟩
    · exact .record (.object []) (by simp)
    · refine .record (.object _) ?_
      simp only [List.forall_mem_cons]
      refine ⟨List.forall_mem_singleton.mpr (.record hprimary ?_), nofun, nofun⟩
      simp only [List.forall_mem_cons]
      exact ⟨List.forall_mem_singleton.mpr (.text _), nofun, nofun, nofun⟩
  have hok := ((ofText_object.2 _ _ hobject).1 r).mpr hread
  refine ⟨ofText_object.1 r, hok, ((ofText_object.2 _ _ hobject).2.1 _ _ hobject' halike r).mp hok,
    ((ofText_object.2 _ _ htwice).2.2 hfits).mpr (.inr (.inr ?_))⟩
  have hdesign : (["design", "designContext"], Design.shape) ∈ fields := by simp [fields]
  exact .here (.object _) hdesign (by decide)

end Request

end Scaffold
