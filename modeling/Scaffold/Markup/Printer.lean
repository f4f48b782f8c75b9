import Scaffold.Markup.Element
import Scaffold.Target

/-!
# Printing markup

A tree is printed alike in both dialects but for its keywords and comments. An element whose
content is text and inline elements stays on one line; any other puts each child on a line of its
own, two spaces further in. No line end closes the text.
-/

namespace Scaffold

/-- Elements that may stay on the line of their parent. -/
def inlineTags : List String := ["a", "b", "code", "em", "option", "span", "strong", "time"]

namespace AttrName

/-- The keyword of an attribute. -/
def keyword (dialect : Dialect) : AttrName → String
  | .classList => match dialect with | .jsx => "className" | .html => "class"
  | .labelFor => match dialect with | .jsx => "htmlFor" | .html => "for"
  | .strokeWidth => match dialect with | .jsx => "strokeWidth" | .html => "stroke-width"
  | .strokeLinecap => match dialect with | .jsx => "strokeLinecap" | .html => "stroke-linecap"
  | .strokeLinejoin => match dialect with | .jsx => "strokeLinejoin" | .html => "stroke-linejoin"
  | .other name => name

end AttrName

/-- A comment as the dialect writes it. -/
def commentText (dialect : Dialect) (text : String) : String :=
  match dialect with
  | .jsx => "\x7b/* " ++ text ++ " */\x7d"
  | .html => "<!-- " ++ text ++ " -->"

def attributeText (dialect : Dialect) (a : Attribute) : List Char :=
  let keyword := (a.name.keyword dialect).toList
  match a.value with
  | none => ' ' :: keyword
  | some value => ' ' :: (keyword ++ '=' :: '"' :: (value.toList ++ ['"']))

def openTag (dialect : Dialect) (tag : String) (attributes : List Attribute) : List Char :=
  '<' :: (tag.toList ++ attributes.flatMap (attributeText dialect) ++ ['>'])

def voidTag (dialect : Dialect) (tag : String) (attributes : List Attribute) : List Char :=
  '<' :: (tag.toList ++ attributes.flatMap (attributeText dialect) ++ [' ', '/', '>'])

def closeTag (tag : String) : List Char := '<' :: '/' :: (tag.toList ++ ['>'])

/-- The blanks before a line at a level of nesting. -/
def indentation (depth : Nat) : List Char := List.replicate (2 * depth) ' '

namespace Node

mutual

/-- A node that may stay on the line of its parent, and so may all inside it. -/
def isInline : Node → Bool
  | .element tag _ children => inlineTags.contains tag && allInline children
  | .text _ => true
  | .comment _ => false

def allInline : List Node → Bool
  | [] => true
  | node :: rest => node.isInline && allInline rest

end

mutual

/-- A node on the line that is being written. -/
def writeFlat (dialect : Dialect) : Node → List Char
  | .element tag attributes children =>
    if isVoidTag tag then voidTag dialect tag attributes
    else openTag dialect tag attributes ++ writeAllFlat dialect children ++ closeTag tag
  | .text content => content.toList
  | .comment content => (commentText dialect content).toList

def writeAllFlat (dialect : Dialect) : List Node → List Char
  | [] => []
  | node :: rest => node.writeFlat dialect ++ writeAllFlat dialect rest

end

mutual

/-- A node on lines of its own, each with its line end. -/
def writeLines (dialect : Dialect) (depth : Nat) : Node → List Char
  | .element tag attributes children =>
    if isVoidTag tag then indentation depth ++ voidTag dialect tag attributes ++ ['\n']
    else if allInline children then
      indentation depth ++ openTag dialect tag attributes ++ writeAllFlat dialect children ++
        closeTag tag ++ ['\n']
    else
      indentation depth ++ openTag dialect tag attributes ++ ['\n'] ++
        writeAllLines dialect (depth + 1) children ++
        indentation depth ++ closeTag tag ++ ['\n']
  | .text content => indentation depth ++ content.toList ++ ['\n']
  | .comment content => indentation depth ++ (commentText dialect content).toList ++ ['\n']

def writeAllLines (dialect : Dialect) (depth : Nat) : List Node → List Char
  | [] => []
  | node :: rest => node.writeLines dialect depth ++ writeAllLines dialect depth rest

end

/-- A text without the line feeds at its end. -/
def dropFinalNewlines (cs : List Char) : List Char := (cs.reverse.dropWhile (· == '\n')).reverse

def render (dialect : Dialect) (node : Node) : String :=
  String.ofList (dropFinalNewlines (node.writeLines dialect 0))

end Node

end Scaffold
