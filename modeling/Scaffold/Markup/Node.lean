/-!
# The neutral markup tree

Page bodies are small trees of elements, texts and comments. An attribute whose keyword depends on
the dialect (class list, label target, stroke of an outline) is named by what it means, any other
by its own spelling.
-/

namespace Scaffold

inductive AttrName where
  | classList
  /-- What a label is for. -/
  | labelFor
  | strokeWidth
  | strokeLinecap
  | strokeLinejoin
  /-- A name that is spelled the same everywhere. -/
  | other (name : String)
  deriving DecidableEq, Repr

/-- An attribute without a value stands for itself, as `required` does. -/
structure Attribute where
  name : AttrName
  value : Option String
  deriving DecidableEq, Repr

inductive Node where
  | element (tag : String) (attributes : List Attribute) (children : List Node)
  | text (content : String)
  | comment (content : String)
  deriving Repr

namespace Node

mutual

/-- The node and all its descendants, each before its own children. -/
def walk : Node → List Node
  | .element tag attributes children => .element tag attributes children :: walkAll children
  | node => [node]

def walkAll : List Node → List Node
  | [] => []
  | node :: rest => node.walk ++ walkAll rest

end

/-- The text of the node itself, without that of its descendants. -/
def ownText : Node → List Char
  | .text content => content.toList
  | _ => []

/-- All text of the tree, without markup. -/
def textContent (node : Node) : String :=
  String.ofList (node.walk.flatMap ownText)

end Node

end Scaffold
