import Scaffold.Json.Decode
import Scaffold.Markup.Element

/-!
# Markup trees in JSON

A node is an object with the one key `Text`, `Comment` or `Element`, an element a record of tag,
attributes and children.
-/

namespace Scaffold

namespace AttrName

def toJson : AttrName → Json
  | .classList => .str "Class"
  | .labelFor => .str "LabelFor"
  | .strokeWidth => .str "StrokeWidth"
  | .strokeLinecap => .str "StrokeLinecap"
  | .strokeLinejoin => .str "StrokeLinejoin"
  | .other name => .ofMembers [("Other", .str name)]

def variants : List String :=
  ["Class", "LabelFor", "StrokeWidth", "StrokeLinecap", "StrokeLinejoin", "Other"]

def ofJson : Source → Json → Except DecodeError AttrName :=
  Json.readVariant variants fun name payload =>
    match name with
    | "Class" => Json.noPayload .classList payload
    | "LabelFor" => Json.noPayload .labelFor payload
    | "StrokeWidth" => Json.noPayload .strokeWidth payload
    | "StrokeLinecap" => Json.noPayload .strokeLinecap payload
    | "StrokeLinejoin" => Json.noPayload .strokeLinejoin payload
    | _ => .other <$> Json.readPayload (fun _ json => json.readStr) payload

end AttrName

namespace Attribute

def toJson (a : Attribute) : Json :=
  .ofMembers [("name", a.name.toJson), ("value", (a.value.map .str).getD .null)]

/-- What has been read of an attribute. -/
structure Partial where
  name : Option AttrName := none
  value : Option (Option String) := none

/-- An object may leave the value out; an array may not. -/
def form : Form Partial Attribute where
  name := "Attribute"
  fields := [
    { key := "name", isFilled := (·.name.isSome)
      fill := fun source json read =>
        return { read with name := some (← AttrName.ofJson source json) } },
    { key := "value", isFilled := (·.value.isSome)
      fill := fun _ json read => return { read with value := some (← json.readStr?) } }]
  least := 2
  blank := {}
  finish := fun read =>
    match read.name with
    | some name => .ok ⟨name, read.value.getD none⟩
    | none => .error (.missingField "name")

def ofJson : Source → Json → Except DecodeError Attribute := form.read

end Attribute

namespace Node

mutual

def toJson : Node → Json
  | .element tag attributes children =>
    .ofMembers [("Element", .ofMembers [
      ("tag", .str tag),
      ("attributes", .ofItems (attributes.map Attribute.toJson)),
      ("children", .ofItems (toJsonAll children))])]
  | .text content => .ofMembers [("Text", .str content)]
  | .comment content => .ofMembers [("Comment", .str content)]

def toJsonAll : List Node → List Json
  | [] => []
  | node :: rest => node.toJson :: toJsonAll rest

end

def variants : List String := ["Element", "Text", "Comment"]

/-- What has been read of an element. -/
structure Partial where
  tag : Option String := none
  attributes : Option (List Attribute) := none
  children : Option (List Node) := none

def Partial.finish (read : Partial) : Except DecodeError Node :=
  match read.tag, read.attributes, read.children with
  | some tag, some attributes, some children => .ok (.element tag attributes children)
  | none, _, _ => .error (.missingField "tag")
  | _, none, _ => .error (.missingField "attributes")
  | _, _, none => .error (.missingField "children")

/-- A field is refused when it comes a second time. -/
def vacant (key : String) (filled : Bool) : Except DecodeError Unit :=
  if filled then .error (.duplicateField key) else .ok ()

def tooFewItems (count : Nat) : DecodeError :=
  .invalidLength count "struct Element with 3 elements"

mutual

def ofJson (source : Source) : Json → Except DecodeError Node
  | .obj ((key, payload) :: others) ending => do
    let inner ← source.openVariant others
    let name ← Json.readVariantKey variants key
    let node ← (match name with
      | "Text" => .text <$> payload.readStr
      | "Comment" => .comment <$> payload.readStr
      | _ => elementOfJson inner payload : Except DecodeError Node)
    closeVariant others ending
    return node
  | .str name => do
    let _ ← Json.readVariantKey variants (.str name)
    throw (.invalidType "unit variant" "newtype variant")
  | json => .error (json.refuseVariant source)

/-- An element, by keys or by position. -/
def elementOfJson (source : Source) : Json → Except DecodeError Node
  | .obj members ending => do
    let source ← source.enter
    let read ← readMembers source {} members
    ending.check
    read.finish
  | .arr items ending => do
    let inner ← source.enter
    match items with
    | [] =>
      ending.check
      throw (tooFewItems 0)
    | [tag] =>
      let _ ← tag.readStr
      ending.check
      throw (tooFewItems 1)
    | [tag, attributes] =>
      let _ ← tag.readStr
      let _ ← attributes.readList Attribute.ofJson inner
      ending.check
      throw (tooFewItems 2)
    | tag :: attributes :: children :: surplus =>
      let tag ← tag.readStr
      let attributes ← attributes.readList Attribute.ofJson inner
      let children ← childrenOfJson inner children
      if surplus.isEmpty then
        ending.check
        return .element tag attributes children
      else
        match source with
        | .text _ => throw (.fault .malformed)
        | .value => throw (.invalidLength (surplus.length + 3) "fewer elements in array")
  | json => .error (json.refuse "struct Element")

def readMembers (source : Source) (read : Partial) :
    List (Json × Json) → Except DecodeError Partial
  | [] => .ok read
  | (key, value) :: rest => do
    match ← key.readKey with
    | "tag" =>
      vacant "tag" read.tag.isSome
      let tag ← value.readStr
      readMembers source { read with tag } rest
    | "attributes" =>
      vacant "attributes" read.attributes.isSome
      let attributes ← value.readList Attribute.ofJson source
      readMembers source { read with attributes } rest
    | "children" =>
      vacant "children" read.children.isSome
      let children ← childrenOfJson source value
      readMembers source { read with children } rest
    | _ =>
      value.skip.check
      readMembers source read rest

def childrenOfJson (source : Source) : Json → Except DecodeError (List Node)
  | .arr items ending => do
    let source ← source.enter
    let nodes ← ofJsonAll source items
    ending.check
    return nodes
  | json => .error (json.refuse "a sequence")

def ofJsonAll (source : Source) : List Json → Except DecodeError (List Node)
  | [] => .ok []
  | item :: rest => do
    let node ← ofJson source item
    let nodes ← ofJsonAll source rest
    return node :: nodes

end

end Node

end Scaffold
