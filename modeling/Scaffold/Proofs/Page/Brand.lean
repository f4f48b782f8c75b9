import Scaffold.Page.Standard
import Scaffold.Proofs.Markup.Shows

/-!
# Every page carries its brand

Each standard page shows the name of the application: in its header, its sidebar or a brand mark of
its own, or on the way back from what is not found. The placeholder also shows the name that has no
body.
-/

namespace Scaffold

/-! ### Building elements -/

namespace Element

variable {shown : List Char} {e : Element}

/-- The element shows a text in one of its children. -/
def Shows (shown : List Char) (e : Element) : Prop :=
  e.isVoid = false ∧ ∃ node ∈ e.children, node.Shows shown

theorem Shows.toNode (h : e.Shows shown) : e.toNode.Shows shown := by
  obtain ⟨hvoid, node, hmem, hnode⟩ := h
  exact .element hvoid hmem hnode

theorem shows_append {nodes : List Node} {node : Node} (hvoid : e.isVoid = false)
    (hmem : node ∈ nodes) (h : node.Shows shown) : (e.append nodes).Shows shown :=
  ⟨hvoid, node, List.mem_append_right _ hmem, h⟩

theorem shows_child {node : Node} (hvoid : e.isVoid = false) (h : node.Shows shown) :
    (e.child node).Shows shown :=
  shows_append hvoid (List.mem_singleton_self node) h

theorem shows_text {content : String} (hvoid : e.isVoid = false)
    (h : shown <:+: content.toList) : (e.text content).Shows shown :=
  shows_child hvoid (.text h)

/-- More children do not hide what is shown. -/
theorem Shows.append (h : e.Shows shown) (nodes : List Node) : (e.append nodes).Shows shown := by
  obtain ⟨hvoid, node, hmem, hnode⟩ := h
  exact ⟨hvoid, node, List.mem_append_left _ hmem, hnode⟩

theorem Shows.child (h : e.Shows shown) (node : Node) : (e.child node).Shows shown :=
  h.append [node]

end Element

/-! ### The brand mark -/

namespace Widget

open Element

variable {shown : List Char} (look : Look)

theorem shows_shell {children : List Node} {node : Node} (hmem : node ∈ children)
    (h : node.Shows shown) : (shell look children).Shows shown :=
  shows_append rfl hmem h

theorem shows_brand : (brand look).Shows look.appName.toList := shows_text rfl List.infix_rfl

theorem shows_header (links : List String) : (header look links).Shows look.appName.toList := by
  unfold header
  refine shows_child rfl (Shows.toNode (shows_child rfl (Shows.toNode ?_)))
  exact ((shows_child rfl (shows_brand look).toNode).child _).child _

end Widget

/-! ### The pages -/

namespace Page

open Element Widget

variable (look : Look)

theorem Landing.shows_body : (Landing.body look).Shows look.appName.toList :=
  (shows_shell look List.mem_cons_self (shows_header look _).toNode).toNode

theorem Pricing.shows_body : (Pricing.body look).Shows look.appName.toList :=
  (shows_shell look List.mem_cons_self (shows_header look _).toNode).toNode

theorem BlogList.shows_body : (BlogList.body look).Shows look.appName.toList :=
  (shows_shell look List.mem_cons_self (shows_header look _).toNode).toNode

theorem Auth.shows_frame (title lead : String) (form prompt : Element) :
    (Auth.frame look title lead form prompt).Shows look.appName.toList := by
  refine (shows_shell look List.mem_cons_self (Shows.toNode ?_)).toNode
  refine shows_child rfl (Shows.toNode ?_)
  have hmark : (element "div" |>.classes "text-center" |>.child (brand look)).Shows
      look.appName.toList := shows_child rfl (shows_brand look).toNode
  exact ((((shows_child rfl hmark.toNode).child _).child _).child _).child _

theorem Onboarding.shows_body : (Onboarding.body look).Shows look.appName.toList := by
  refine (shows_shell look List.mem_cons_self (Shows.toNode ?_)).toNode
  have hmark : (element "main" |>.classes "mx-auto max-w-2xl px-6 py-16"
      |>.child (brand look)).Shows look.appName.toList := shows_child rfl (shows_brand look).toNode
  exact ((((hmark.child _).child _).child _).child _).child _

theorem Settings.shows_body : (Settings.body look).Shows look.appName.toList :=
  (shows_shell look List.mem_cons_self (shows_header look _).toNode).toNode

theorem Dashboard.shows_body : (Dashboard.body look).Shows look.appName.toList := by
  refine (shows_shell look List.mem_cons_self (Shows.toNode ?_)).toNode
  have hsidebar : (Dashboard.sidebar look).Shows look.appName.toList := by
    unfold Dashboard.sidebar
    exact (shows_child rfl (shows_child rfl (shows_brand look).toNode).toNode).child _
  exact (shows_child rfl hsidebar.toNode).child _

theorem CrudTable.shows_body : (CrudTable.body look).Shows look.appName.toList :=
  (shows_shell look List.mem_cons_self (shows_header look _).toNode).toNode

/-- This page has no brand mark. It names the application on the way back to it. -/
theorem NotFound.shows_body : (NotFound.body look).Shows look.appName.toList := by
  refine (shows_shell look List.mem_cons_self (Shows.toNode ?_)).toNode
  have hwayBack : (NotFound.wayBack look).Shows look.appName.toList := by
    unfold NotFound.wayBack
    refine Shows.child (shows_text rfl ?_) _
    rw [String.toList_append]
    exact (List.suffix_append _ _).isInfix
  exact shows_child rfl (Shows.toNode ((shows_child rfl hwayBack.toNode).child _))

theorem shows_standardBody (archetype : Archetype) :
    (standardBody archetype look).Shows look.appName.toList := by
  cases archetype with
  | landing => exact Landing.shows_body look
  | dashboard => exact Dashboard.shows_body look
  | authLogin => exact Auth.shows_frame look _ _ _ _
  | authSignup => exact Auth.shows_frame look _ _ _ _
  | pricing => exact Pricing.shows_body look
  | settings => exact Settings.shows_body look
  | crudTable => exact CrudTable.shows_body look
  | blogList => exact BlogList.shows_body look
  | onboarding => exact Onboarding.shows_body look
  | error404 => exact NotFound.shows_body look

/-- The placeholder shows whatever its notice holds. -/
theorem shows_placeholder {shown : List Char} (name : String)
    (h : shown <:+:
      ("Template \"" ++ name ++ "\" is not available in " ++ look.appName ++ ".").toList) :
    (placeholder name look).Shows shown := by
  refine (shows_shell look List.mem_cons_self (Shows.toNode ?_)).toNode
  exact shows_child rfl (Shows.toNode (shows_text rfl h))

theorem shows_placeholder_name (name : String) : (placeholder name look).Shows name.toList := by
  refine shows_placeholder look name ?_
  simp only [String.toList_append, List.append_assoc]
  exact (List.prefix_append _ _).isInfix.trans (List.suffix_append _ _).isInfix

theorem shows_placeholder_appName (name : String) :
    (placeholder name look).Shows look.appName.toList := by
  refine shows_placeholder look name ?_
  rw [String.toList_append, String.toList_append]
  exact List.infix_append _ _ _

end Page

end Scaffold
