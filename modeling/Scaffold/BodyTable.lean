import Scaffold.Page.Standard

/-!
# Tables of page bodies

One slot for each archetype, empty or with the producer of its body. A table is complete when no
slot is empty; a name without a producer gets the placeholder.
-/

namespace Scaffold

abbrev Producer := Look → Node

structure BodyTable where
  slots : Vector (Option Producer) 10

/-- A table lacks the body of an archetype. -/
structure IncompleteTable where
  archetype : Archetype
  deriving DecidableEq, Repr

def IncompleteTable.message (e : IncompleteTable) : String :=
  "no body producer registered for archetype '" ++ e.archetype.name ++ "'"

namespace BodyTable

def empty : BodyTable := ⟨Vector.replicate 10 none⟩

def producer? (t : BodyTable) (a : Archetype) : Option Producer := t.slots[a.index]

/-- Puts a producer into the slot of an archetype, in place of one that is there. -/
def insert (t : BodyTable) (a : Archetype) (producer : Producer) : BodyTable :=
  ⟨t.slots.set a.index (some producer)⟩

/-- Every archetype has its standard body. -/
def standard : BodyTable :=
  Archetype.all.foldl (fun t a => t.insert a (Page.standardBody a)) empty

def contains (t : BodyTable) (a : Archetype) : Bool := (t.producer? a).isSome

/-- The archetypes with a producer, in their order. -/
def archetypes (t : BodyTable) : List Archetype := Archetype.all.filter t.contains

/-- Fails with the first archetype that has no producer. -/
def requireComplete (t : BodyTable) : Except IncompleteTable Unit :=
  match Archetype.all.find? (! t.contains ·) with
  | some missing => .error ⟨missing⟩
  | none => .ok ()

/-- The body for a name: what its producer makes, or else the placeholder. -/
def body (t : BodyTable) (name : ArchetypeName) (look : Look) : Node :=
  match name.known?.bind t.producer? with
  | some producer => producer look
  | none => Page.placeholder name.text look

/-- The table as it is shown: the labels of the archetypes it has producers for. -/
def described (t : BodyTable) : String :=
  "BodyRegistry \x7b registered: [" ++ ", ".intercalate (t.archetypes.map Archetype.label) ++
    "] \x7d"

end BodyTable

end Scaffold
