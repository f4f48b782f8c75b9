import Scaffold.Proofs.Assembly.Rendering

/-!
# The frame of a file

A skeleton shows the body in one place and whether the page is in the dark in one other, the root of
a document. What its other pieces are rendered to is the same for every body and in both looks. So a
file is a frame around its body region.
-/

namespace Scaffold

/-! ### What a piece reads -/

def Argument.paths : Argument → List Path
  | .path p => [p]
  | .literal _ => []

/-- The values that a piece looks up. -/
def Piece.paths : Piece → List Path
  | .text _ => []
  | .value p => [p]
  | .call _ arguments => arguments.flatMap Argument.paths

section Congruence

variable {data other : Json}

theorem Piece.render_congr {piece : Piece}
    (h : ∀ p ∈ piece.paths, data.at? p.keys = other.at? p.keys) :
    piece.render data = piece.render other := by
  cases piece with
  | text content => rfl
  | value p =>
    have hp := h p List.mem_cons_self
    simp only [Piece.render, hp]
  | call helper arguments =>
    have heval : arguments.map (·.eval data) = arguments.map (·.eval other) := by
      refine List.map_congr_left fun a ha => ?_
      cases a with
      | path p => exact h p (List.mem_flatMap.mpr ⟨_, ha, List.mem_cons_self⟩)
      | literal json => rfl
    simp only [Piece.render, heval]

theorem Template.renderChars_congr {template : Template}
    (h : ∀ piece ∈ template, ∀ p ∈ piece.paths, data.at? p.keys = other.at? p.keys) :
    template.renderChars data = template.renderChars other := by
  induction template with
  | nil => rfl
  | cons piece rest ih =>
    rw [List.forall_mem_cons] at h
    simp only [Template.renderChars, Piece.render_congr h.1, ih h.2]

end Congruence

/-! ### Files -/

namespace Target

/-- A value of the request itself, and neither its body nor whether it is dark. -/
def inFrame (p : Path) : Prop := p.keys.length = 1 ∧ "body" ∉ p.keys ∧ "html_attrs" ∉ p.keys

instance : DecidablePred inFrame := fun _ => inferInstanceAs (Decidable (_ ∧ _ ∧ _))

/-- The start of a document up to the attributes of its root; other files have none. -/
def documentStart (t : Target) (darkMode : Bool) : List Char :=
  match t with
  | html => ("<!DOCTYPE html>\n<html lang=\"en\"" ++ documentClass darkMode).toList
  | _ => []

theorem skeleton_eq_frame (t : Target) :
    ∃ start front back : Template, t.skeleton = start ++ (front ++ t.bodyPiece :: back) ∧
      (∀ piece ∈ front ++ back, ∀ p ∈ piece.paths, inFrame p) ∧
      (t = html → ∃ content rest, front = .text content :: rest ∧ ['>'] <+: content.toList) ∧
      ∀ page setting,
        start.renderChars (t.data page setting) = .ok (t.documentStart setting.darkMode) := by
  cases t with
  | react | nextjs =>
    exact ⟨[], Skeleton.react.take 4, Skeleton.react.drop 5, rfl, by decide, by simp,
      fun _ _ => rfl⟩
  | vue =>
    exact ⟨[], Skeleton.vue.take 5, Skeleton.vue.drop 6, rfl, by decide, by simp,
      fun _ _ => rfl⟩
  | angular =>
    exact ⟨[], Skeleton.angular.take 3, Skeleton.angular.drop 4, rfl, by decide, by simp,
      fun _ _ => rfl⟩
  | svelte =>
    exact ⟨[], Skeleton.svelte.take 5, Skeleton.svelte.drop 6, rfl, by decide, by simp,
      fun _ _ => rfl⟩
  | html =>
    refine ⟨Skeleton.html.take 2, (Skeleton.html.take 15).drop 2, Skeleton.html.drop 16, rfl,
      by decide, fun _ => ⟨_, _, rfl, ?_⟩, fun page setting => ?_⟩
    · simp only [String.toList_append, List.append_assoc]
      exact ⟨_, rfl⟩
    have hclass : (html.data page setting).at? ["html_attrs"] =
        some (.str (documentClass setting.darkMode)) := by
      rw [at?_data]
      rfl
    have hwhole : Template.renderChars (html.data page setting) (Skeleton.html.take 2) = .ok _ :=
      Template.renderChars_cons (Piece.render_text _) <|
      Template.renderChars_cons (Skeleton.render_value hclass) Template.renderChars_nil
    simpa [documentStart] using hwhole

/-- The frame finds the same for every body and in both looks. -/
theorem at?_data_congr {p : Path} (hp : inFrame p) (t : Target) (name : String)
    (body other : Body) (setting : Setting) (darkMode : Bool) :
    (t.data ⟨name, body⟩ setting).at? p.keys =
      (t.data ⟨name, other⟩ { setting with darkMode }).at? p.keys := by
  obtain ⟨hlength, hbody, hclass⟩ := hp
  obtain ⟨key, hkey⟩ := List.length_eq_one_iff.mp hlength
  rw [hkey, List.mem_singleton, ← ne_eq, ne_comm, ← beq_eq_false_iff_ne] at hbody hclass
  rw [hkey, at?_data, at?_data]
  cases t <;> simp only [fields, List.lookup_cons, hbody, hclass]

/-- Around the body region of a file stands the same text for every body and in both looks, but for
the class of a document. -/
theorem exists_frame (t : Target) (name : String) (setting : Setting) :
    ∃ before after : List Char, (t = html → ['>'] <+: before) ∧ ∀ body darkMode,
      t.assemble ⟨name, body⟩ { setting with darkMode } =
        .ok ⟨filePath name t.pathSuffix (t.fileExtension setting.typescript),
          String.ofList (t.documentStart darkMode ++
            (before ++ ((t.bodyRegion body).toList ++ after)))⟩ := by
  obtain ⟨start, front, back, hskeleton, hframe, hroot, hstart⟩ := t.skeleton_eq_frame
  rw [List.forall_mem_append] at hframe
  -- the frame is taken from the file of an empty body
  have hrendered := t.exists_render_skeleton ⟨name, .markup ""⟩ setting
  simp only [hskeleton, List.forall_mem_append, List.forall_mem_cons] at hrendered
  obtain ⟨before, hbefore⟩ := Template.exists_renderChars hrendered.2.1
  obtain ⟨after, hafter⟩ := Template.exists_renderChars hrendered.2.2.2
  refine ⟨before, after, fun ht => ?_, fun body darkMode => assemble_eq ?_⟩
  · obtain ⟨content, rest, rfl, hcontent⟩ := hroot ht
    obtain ⟨first, more, hfirst, -, rfl⟩ := Template.renderChars_cons_eq_ok.mp hbefore
    cases hfirst
    exact hcontent.trans (List.prefix_append _ more)
  have hdata : ∀ p, inFrame p → (t.data ⟨name, .markup ""⟩ setting).at? p.keys =
      (t.data ⟨name, body⟩ { setting with darkMode }).at? p.keys := fun p hp =>
    at?_data_congr hp t name _ body setting darkMode
  rw [Template.renderChars_congr fun piece hpiece p hp => hdata p (hframe.1 piece hpiece p hp)]
    at hbefore
  rw [Template.renderChars_congr fun piece hpiece p hp => hdata p (hframe.2 piece hpiece p hp)]
    at hafter
  rw [hskeleton]
  exact Template.renderChars_append (hstart _ _) <| Template.renderChars_append hbefore <|
    Template.renderChars_cons (t.render_bodyPiece _ _) hafter

end Target

end Scaffold
