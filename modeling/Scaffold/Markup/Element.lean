import Scaffold.Markup.Node

/-!
# Building elements

An `Element` starts as a bare tag and is added to: attributes and children each go behind those
that are there. Only the class list grows in place, since an element has one.
-/

namespace Scaffold

structure Element where
  tag : String
  attributes : List Attribute := []
  children : List Node := []
  deriving Repr

/-- Elements that never have children and are closed in their own tag. -/
def voidTags : List String :=
  ["area", "br", "circle", "col", "hr", "img", "input", "line", "link", "meta", "path", "polyline",
    "rect", "source"]

def isVoidTag (tag : String) : Bool := voidTags.contains tag

/-- A bare element. -/
def element (tag : String) : Element := ⟨tag, [], []⟩

namespace Element

def toNode (e : Element) : Node := .element e.tag e.attributes e.children

instance : Coe Element Node := ⟨toNode⟩

def isVoid (e : Element) : Bool := isVoidTag e.tag

def addAttribute (e : Element) (name : AttrName) (value : Option String) : Element :=
  { e with attributes := e.attributes ++ [⟨name, value⟩] }

/-- Two class lists as one; nothing separates an empty one from what follows it. -/
def joinClasses (classes more : String) : String :=
  if classes = "" then more else classes ++ " " ++ more

/-- Adds to the first class list among the attributes, if there is one. -/
def extendClasses (classes : String) : List Attribute → Option (List Attribute)
  | [] => none
  | a :: rest =>
    if a.name = .classList then
      some (⟨.classList, some (joinClasses (a.value.getD "") classes)⟩ :: rest)
    else
      (extendClasses classes rest).map (a :: ·)

/-- Adds classes behind those the element has. -/
def classes (e : Element) (classes : String) : Element :=
  match extendClasses classes e.attributes with
  | some attributes => { e with attributes }
  | none => e.addAttribute .classList (some classes)

/-- Names the control that a label is for. -/
def labelFor (e : Element) (id : String) : Element := e.addAttribute .labelFor (some id)

def attr (e : Element) (name value : String) : Element := e.addAttribute (.other name) (some value)

/-- An attribute without a value. -/
def flag (e : Element) (name : String) : Element := e.addAttribute (.other name) none

/-- The rounded stroke of an outline. -/
def stroke (e : Element) (width : String) : Element :=
  e.addAttribute .strokeLinecap (some "round")
    |>.addAttribute .strokeLinejoin (some "round")
    |>.addAttribute .strokeWidth (some width)

def child (e : Element) (node : Node) : Element := { e with children := e.children ++ [node] }

def append (e : Element) (nodes : List Node) : Element := { e with children := e.children ++ nodes }

/-- Adds elements as children. -/
def elements (e : Element) (es : List Element) : Element := e.append (es.map toNode)

def text (e : Element) (content : String) : Element := e.child (.text content)

def comment (e : Element) (content : String) : Element := e.child (.comment content)

/-- The value of the class list, if the element has one. -/
def classList? (e : Element) : Option String :=
  (e.attributes.find? (·.name = .classList)).bind (·.value)

end Element

end Scaffold
