import Scaffold.Assembly

/-!
# What a skeleton is rendered to

The fields a target is filled with hold every key its skeleton reads, so assembling never fails,
and the text of a file is what the pieces of the skeleton are rendered to, one after the other.
Exactly one piece reads the body. What it is rendered to is the body region of the file.
-/

namespace Scaffold

/-! ### Templates -/

theorem Json.at?_ofMembers (fields : List (String × String)) (key : String) :
    (Json.ofMembers (fields.map fun (key, text) => (key, Json.str text))).at? [key] =
      (fields.lookup key).map .str := by
  have hfind : (Json.ofMembers (fields.map fun (key, text) => (key, Json.str text))).member? key =
      (fields.lookup key).map .str := by
    induction fields with
    | nil => rfl
    | cons field rest ih =>
      obtain ⟨k, text⟩ := field
      by_cases hk : k = key
      · simp [Json.ofMembers, Json.member?, Json.isKey, hk]
      · have hk' : (key == k) = false := beq_false_of_ne fun heq => hk heq.symm
        rw [List.lookup_cons, hk', ← ih]
        simp [Json.ofMembers, Json.member?, Json.isKey, hk]
  calc (Json.ofMembers (fields.map fun (key, text) => (key, Json.str text))).at? [key]
      = ((Json.ofMembers (fields.map fun (key, text) => (key, Json.str text))).member? key).bind
          (Json.at? []) := rfl
    _ = (fields.lookup key).map .str := by
        rw [hfind]
        cases fields.lookup key <;> rfl

namespace Template

variable {data : Json}

theorem renderChars_nil : renderChars data [] = .ok [] := rfl

/-- A template is rendered when all its pieces are, to their texts in order. -/
theorem renderChars_cons_eq_ok {piece : Piece} {rest : Template} {cs : List Char} :
    renderChars data (piece :: rest) = .ok cs ↔
      ∃ front back, piece.render data = .ok front ∧ renderChars data rest = .ok back ∧
        front ++ back = cs := by
  rw [renderChars]
  cases piece.render data with
  | error e => simp [bind, Except.bind]
  | ok front =>
    cases renderChars data rest with
    | error e => simp [bind, Except.bind]
    | ok back => simp [bind, Except.bind, pure, Except.pure]

theorem renderChars_cons {piece : Piece} {rest : Template} {front back : List Char}
    (hpiece : piece.render data = .ok front) (hrest : renderChars data rest = .ok back) :
    renderChars data (piece :: rest) = .ok (front ++ back) :=
  renderChars_cons_eq_ok.mpr ⟨front, back, hpiece, hrest, rfl⟩

theorem renderChars_append {front back : Template} {before after : List Char}
    (hfront : renderChars data front = .ok before) (hback : renderChars data back = .ok after) :
    renderChars data (front ++ back) = .ok (before ++ after) := by
  induction front generalizing before with
  | nil =>
    cases hfront
    exact hback
  | cons piece front ih =>
    obtain ⟨first, rest, hpiece, hrest, rfl⟩ := renderChars_cons_eq_ok.mp hfront
    rw [List.append_assoc]
    exact renderChars_cons hpiece (ih hrest)

/-- A template of pieces that are all rendered is rendered. -/
theorem exists_renderChars {template : Template}
    (h : ∀ piece ∈ template, ∃ cs, piece.render data = .ok cs) :
    ∃ cs, renderChars data template = .ok cs := by
  induction template with
  | nil => exact ⟨[], rfl⟩
  | cons piece rest ih =>
    obtain ⟨front, hfront⟩ := h piece List.mem_cons_self
    obtain ⟨back, hback⟩ := ih fun p hp => h p (List.mem_cons_of_mem piece hp)
    exact ⟨front ++ back, renderChars_cons hfront hback⟩

end Template

/-! ### Pieces -/

section Pieces

variable {data : Json} {key text : String}

theorem Piece.render_text (content : String) :
    (Piece.text content).render data = .ok content.toList := rfl

theorem Skeleton.render_value (h : data.at? [key] = some (.str text)) :
    (Skeleton.value key).render data = .ok text.toList := by
  rw [Skeleton.value, Piece.render, Path.key, h]
  rfl

theorem Skeleton.render_call (h : data.at? [key] = some (.str text)) {name : String}
    {helper : Helper} (hname : Helper.ofName? name = some helper) :
    (Skeleton.call name key).render data = .ok (helper.apply [some (.str text)]).toList := by
  rw [Skeleton.call, Piece.render, hname]
  simp only [List.map_cons, List.map_nil, Argument.eval, Path.key, h]

theorem Skeleton.render_identifier (h : data.at? [key] = some (.str text)) :
    (Skeleton.call "pascal_case" key).render data = .ok (PageName.identifier text).toList := by
  have hname : Helper.ofName? "pascal_case" = some .pascalCase := rfl
  rw [Skeleton.render_call h hname]
  rfl

theorem Skeleton.render_segment (h : data.at? [key] = some (.str text)) :
    (Skeleton.call "kebab_case" key).render data = .ok (PageName.segment text).toList := by
  have hname : Helper.ofName? "kebab_case" = some .kebabCase := rfl
  rw [Skeleton.render_call h hname]
  rfl

theorem Skeleton.render_indented (h : data.at? [key] = some (.str text)) (spaces : Nat) :
    (Skeleton.indented key spaces).render data = .ok (indent text spaces).toList := by
  have hname : Helper.ofName? "indent" = some .indent := rfl
  rw [Skeleton.indented, Piece.render, hname]
  simp only [List.map_cons, List.map_nil, Argument.eval, Path.key, h]
  rfl

/-- The piece is rendered whenever the data has `keys`: an argument of a helper may be missing, a
value may not. -/
def Piece.isServedBy (keys : List String) : Piece → Bool
  | .text _ => true
  | .value p => keys.any fun key => p.keys == [key]
  | .call helper _ => (Helper.ofName? helper).isSome

theorem Piece.exists_render {piece : Piece} {keys : List String} (h : piece.isServedBy keys = true)
    (hkeys : ∀ key ∈ keys, ∃ json, data.at? [key] = some json) :
    ∃ cs, piece.render data = .ok cs := by
  cases piece with
  | text content => exact ⟨content.toList, rfl⟩
  | value p =>
    obtain ⟨key, hmem, hp⟩ := List.any_eq_true.mp h
    obtain ⟨json, hjson⟩ := hkeys key hmem
    refine ⟨json.inserted, ?_⟩
    rw [Piece.render, beq_iff_eq.mp hp, hjson]
  | call name arguments =>
    obtain ⟨helper, hname⟩ := Option.isSome_iff_exists.mp h
    exact ⟨_, by rw [Piece.render, hname]⟩

end Pieces

/-! ### The body region -/

/-- The piece looks up `key`. -/
def Argument.reads (key : String) : Argument → Bool
  | .path p => p.keys.head? == some key
  | .literal _ => false

@[inherit_doc Argument.reads]
def Piece.reads (key : String) : Piece → Bool
  | .text _ => false
  | .value p => p.keys.head? == some key
  | .call _ arguments => arguments.any (·.reads key)

namespace Target

/-- The data that the skeleton of a target is rendered with. -/
def data (t : Target) (page : NamedBody) (setting : Setting) : Json :=
  .ofMembers ((t.fields page setting).map fun (key, text) => (key, Json.str text))

theorem at?_data (t : Target) (page : NamedBody) (setting : Setting) (key : String) :
    (t.data page setting).at? [key] = ((t.fields page setting).lookup key).map .str :=
  Json.at?_ofMembers _ key

@[simp] theorem lookup_body (t : Target) (page : NamedBody) (setting : Setting) :
    (t.fields page setting).lookup "body" = some (t.bodyText page.body) := by
  cases t <;> simp [fields, List.lookup_cons]

@[simp] theorem lookup_name (t : Target) (page : NamedBody) (setting : Setting) :
    (t.fields page setting).lookup "name" = some page.name := by
  cases t <;> simp [fields, List.lookup_cons]

theorem exists_at?_data {t : Target} {page : NamedBody} {setting : Setting} {key : String}
    (h : key ∈ (t.fields page setting).map Prod.fst) :
    ∃ json, (t.data page setting).at? [key] = some json := by
  obtain ⟨⟨k, text⟩, hmem, rfl⟩ := List.mem_map.mp h
  have hsome : ((t.fields page setting).lookup k).isSome := by
    rw [List.lookup_isSome_iff]
    exact ⟨(k, text), hmem, by simp⟩
  obtain ⟨text, htext⟩ := Option.isSome_iff_exists.mp hsome
  exact ⟨.str text, by rw [at?_data, htext]; rfl⟩

/-- Every piece of a skeleton is rendered, so assembling never fails. -/
theorem exists_render_skeleton (t : Target) (page : NamedBody) (setting : Setting) :
    ∀ piece ∈ t.skeleton, ∃ cs, piece.render (t.data page setting) = .ok cs := by
  have hserved : ∀ piece ∈ t.skeleton,
      piece.isServedBy ((t.fields page setting).map Prod.fst) = true := by
    cases t <;> simp only [fields, List.map_cons, List.map_nil] <;> decide
  intro piece hpiece
  exact Piece.exists_render (hserved piece hpiece) fun key => exists_at?_data

/-- The piece of a skeleton that shows the body. -/
def bodyPiece : Target → Piece
  | react | nextjs | angular => Skeleton.indented "body" 4
  | vue | html => Skeleton.indented "body" 2
  | svelte => Skeleton.value "body"

/-- The body as it stands in a file. -/
def bodyRegion (t : Target) (body : Body) : String :=
  match t with
  | react | nextjs | angular => indent (t.bodyText body) 4
  | vue | html => indent (t.bodyText body) 2
  | svelte => t.bodyText body

theorem render_bodyPiece (t : Target) (page : NamedBody) (setting : Setting) :
    t.bodyPiece.render (t.data page setting) = .ok (t.bodyRegion page.body).toList := by
  have hbody : (t.data page setting).at? ["body"] = some (.str (t.bodyText page.body)) := by
    rw [at?_data, lookup_body]
    rfl
  cases t with
  | svelte => exact Skeleton.render_value hbody
  | _ => exact Skeleton.render_indented hbody _

/-- The skeleton of a target shows the body in one place. -/
theorem skeleton_eq (t : Target) :
    ∃ front back, t.skeleton = front ++ t.bodyPiece :: back ∧
      ∀ other ∈ front ++ back, other.reads "body" = false := by
  cases t with
  | react | nextjs => exact ⟨Skeleton.react.take 4, Skeleton.react.drop 5, rfl, by decide⟩
  | vue => exact ⟨Skeleton.vue.take 5, Skeleton.vue.drop 6, rfl, by decide⟩
  | angular => exact ⟨Skeleton.angular.take 3, Skeleton.angular.drop 4, rfl, by decide⟩
  | svelte => exact ⟨Skeleton.svelte.take 5, Skeleton.svelte.drop 6, rfl, by decide⟩
  | html => exact ⟨Skeleton.html.take 15, Skeleton.html.drop 16, rfl, by decide⟩

theorem reads_bodyPiece (t : Target) : t.bodyPiece.reads "body" = true := by
  cases t <;> decide

/-- `region` is the part of a file's text that comes from the body: the skeleton has one piece that
reads the body, and the text is what the pieces in front of it, this piece and the pieces behind it
are rendered to. -/
def IsBodyRegion (t : Target) (page : NamedBody) (setting : Setting) (content : String)
    (region : List Char) : Prop :=
  ∃ (front back : Template) (piece : Piece) (before after : List Char),
    t.skeleton = front ++ piece :: back ∧
    piece.reads "body" = true ∧ (∀ other ∈ front ++ back, other.reads "body" = false) ∧
    front.renderChars (t.data page setting) = .ok before ∧
    piece.render (t.data page setting) = .ok region ∧
    back.renderChars (t.data page setting) = .ok after ∧
    content = String.ofList (before ++ region ++ after)

theorem assemble_eq {t : Target} {page : NamedBody} {setting : Setting} {content : List Char}
    (h : t.skeleton.renderChars (t.data page setting) = .ok content) :
    t.assemble page setting =
      .ok ⟨filePath page.name t.pathSuffix (t.fileExtension setting.typescript),
        String.ofList content⟩ := by
  have hrender : t.skeleton.render (t.data page setting) = .ok (String.ofList content) := by
    rw [Template.render, h]
    rfl
  change (t.skeleton.render (t.data page setting) >>= fun content => _) = _
  rw [hrender]
  rfl

/-- Each target makes a file of any page. -/
theorem exists_assemble (t : Target) (page : NamedBody) (setting : Setting) :
    ∃ file, t.assemble page setting = .ok file := by
  obtain ⟨content, hcontent⟩ := Template.exists_renderChars (t.exists_render_skeleton page setting)
  exact ⟨_, assemble_eq hcontent⟩

/-- Wherever the skeleton is cut, the text of a file is what the pieces in front are rendered to,
and then what those behind are. -/
theorem exists_parts {t : Target} {front back : Template} {page : NamedBody} {setting : Setting}
    {file : File} (hskeleton : t.skeleton = front ++ back)
    (h : t.assemble page setting = .ok file) :
    ∃ before after, front.renderChars (t.data page setting) = .ok before ∧
      back.renderChars (t.data page setting) = .ok after ∧
      file.content.toList = before ++ after := by
  have hrendered := t.exists_render_skeleton page setting
  rw [hskeleton] at hrendered
  obtain ⟨before, hbefore⟩ := Template.exists_renderChars fun piece hp =>
    hrendered piece (List.mem_append_left back hp)
  obtain ⟨after, hafter⟩ := Template.exists_renderChars fun piece hp =>
    hrendered piece (List.mem_append_right front hp)
  have hwhole := Template.renderChars_append hbefore hafter
  rw [← hskeleton] at hwhole
  rw [assemble_eq hwhole] at h
  cases h
  exact ⟨before, after, hbefore, hafter, String.toList_ofList⟩

/-- Each target makes a file of any page, with the body in its region. -/
theorem exists_bodyRegion (t : Target) (page : NamedBody) (setting : Setting) :
    ∃ file, t.assemble page setting = .ok file ∧
      t.IsBodyRegion page setting file.content (t.bodyRegion page.body).toList := by
  obtain ⟨file, hfile⟩ := t.exists_assemble page setting
  obtain ⟨front, back, hskeleton, hothers⟩ := t.skeleton_eq
  obtain ⟨before, rest, hbefore, hrest, hcontent⟩ := exists_parts hskeleton hfile
  obtain ⟨shown, after, hshown, hafter, rfl⟩ := Template.renderChars_cons_eq_ok.mp hrest
  rw [t.render_bodyPiece page setting, Except.ok.injEq] at hshown
  subst hshown
  refine ⟨file, hfile, front, back, t.bodyPiece, before, after, hskeleton, t.reads_bodyPiece,
    hothers, hbefore, t.render_bodyPiece page setting, hafter, ?_⟩
  rw [← String.toList_inj, hcontent, String.toList_ofList, List.append_assoc]

end Target

end Scaffold
