import Scaffold.Json.Reader
import Scaffold.Text.Quoted

/-!
# Making values of a type out of JSON

A reader walks a value in the order of the text and stops at the first thing that is wrong, be it a
value of the wrong kind or the place where the text breaks.

* `Form.read` reads a record, from an object by keys or from an array by position.
* `readVariant` reads one of several named cases, from a string or from an object with one key.
-/

namespace Scaffold

inductive DecodeError where
  | fault (fault : Fault)
  | duplicateField (key : String)
  | missingField (key : String)
  | invalidType (found expected : String)
  | invalidLength (length : Nat) (expected : String)
  | unknownVariant (name : String) (variants : List String)
  | severalKeys
  deriving DecidableEq, Repr

/-- The wording of an error. A text that breaks has none. -/
def DecodeError.message? : DecodeError → Option String
  | .fault _ => none
  | .duplicateField key => some ("duplicate field " ++ tick key)
  | .missingField key => some ("missing field " ++ tick key)
  | .invalidType found expected => some s!"invalid type: {found}, expected {expected}"
  | .invalidLength length expected => some s!"invalid length {length}, expected {expected}"
  | .unknownVariant name variants =>
    some ("unknown variant " ++ tick name ++ ", expected " ++ choice variants)
  | .severalKeys => some "invalid value: map, expected map with a single key"
where
  tick (name : String) : String := "\x60" ++ name ++ "\x60"
  choice : List String → String
    | [] => ""
    | [only] => tick only
    | [one, other] => tick one ++ " or " ++ tick other
    | names => "one of " ++ ", ".intercalate (names.map tick)

/-- Where a value comes from: it was there as a value, or it is read from a text, where only so
many levels of nesting may still be opened. -/
inductive Source where
  | value
  | text (levels : Nat)
  deriving DecidableEq, Repr

def Source.enter : Source → Except DecodeError Source
  | .value => .ok .value
  | .text 0 => .error (.fault .malformed)
  | .text (levels + 1) => .ok (.text levels)

def Ending.check : Ending → Except DecodeError Unit
  | .closed => .ok ()
  | .broken fault => .error (.fault fault)

namespace Json

/-- The kind of a value in a message; scalars are named with their text. -/
def described : Json → String
  | .null => "null"
  | .bool true => "boolean \x60true\x60"
  | .bool false => "boolean \x60false\x60"
  | .int n => "integer \x60" ++ toString n ++ "\x60"
  | .float text => "floating point \x60" ++ text ++ "\x60"
  | .str text => "string " ++ Text.quoted text
  | .arr _ _ => "sequence"
  | .obj _ _ => "map"
  | .gap | .scrap _ _ _ => ""

/-- The error of a value that is not what was expected. -/
def refuse (expected : String) : Json → DecodeError
  | .gap => .fault .endOfText
  | .scrap _ fault _ => .fault fault
  | json => .invalidType json.described expected

def readStr : Json → Except DecodeError String
  | .str text => .ok text
  | json => .error (json.refuse "a string")

def readBool : Json → Except DecodeError Bool
  | .bool value => .ok value
  | json => .error (json.refuse "a boolean")

def readUnit : Json → Except DecodeError Unit
  | .null => .ok ()
  | json => .error (json.refuse "unit")

/-- A string, or `null` for none. -/
def readStr? : Json → Except DecodeError (Option String)
  | .null => .ok none
  | json => some <$> json.readStr

/-- A key where a field of a record belongs. -/
def readKey : Json → Except DecodeError String
  | .str key => .ok key
  | .gap => .error (.fault .endOfText)
  | .scrap true fault _ => .error (.fault fault)
  | _ => .error (.fault .malformed)

def readEach (read : Json → Except DecodeError α) : List Json → Except DecodeError (List α)
  | [] => .ok []
  | item :: rest => do
    let value ← read item
    let values ← readEach read rest
    return value :: values

/-- An array whose items are all read alike. -/
def readList (read : Source → Json → Except DecodeError α) (source : Source) :
    Json → Except DecodeError (List α)
  | .arr items ending => do
    let source ← source.enter
    let values ← readEach (read source) items
    ending.check
    return values
  | json => .error (json.refuse "a sequence")

end Json

/-! ### Records -/

/-- One field of a record of which `σ` holds what has been read. -/
structure Field (σ : Type) where
  key : String
  otherKey : Option String := none
  isFilled : σ → Bool
  fill : Source → Json → σ → Except DecodeError σ

def Field.answersTo (field : Field σ) (key : String) : Bool :=
  field.key == key || field.otherKey == some key

/-- How a record of type `α` is read. An array gives its fields by position and has at least
`least` items. -/
structure Form (σ α : Type) where
  name : String
  fields : List (Field σ)
  least : Nat
  blank : σ
  finish : σ → Except DecodeError α

namespace Form

variable {σ α : Type}

/-- Members in order. A second member for a field is refused before its value is looked at, and the
value of an unknown key is skipped. -/
def readMembers (form : Form σ α) (source : Source) :
    List (Json × Json) → σ → Except DecodeError σ
  | [], read => .ok read
  | (key, value) :: rest, read => do
    let key ← key.readKey
    match form.fields.find? (·.answersTo key) with
    | some field =>
      if field.isFilled read then throw (.duplicateField field.key)
      form.readMembers source rest (← field.fill source value read)
    | none =>
      value.skip.check
      form.readMembers source rest read

/-- Items by position, with the number of items left over. -/
def readItems (source : Source) : List (Field σ) → List Json → σ → Except DecodeError (σ × Nat)
  | field :: fields, item :: rest, read => do
    readItems source fields rest (← field.fill source item read)
  | _, rest, read => .ok (read, rest.length)

def expected (form : Form σ α) : String :=
  s!"struct {form.name} with {form.fields.length} elements"

def read (form : Form σ α) (source : Source) : Json → Except DecodeError α
  | .obj members ending => do
    let source ← source.enter
    let read ← form.readMembers source members form.blank
    ending.check
    form.finish read
  | .arr items ending => do
    let inner ← source.enter
    let (read, surplus) ← readItems inner form.fields items form.blank
    if surplus = 0 then
      ending.check
      if items.length < form.least then throw (.invalidLength items.length form.expected)
      form.finish read
    else
      match source with
      | .text _ => throw (.fault .malformed)
      | .value => throw (.invalidLength items.length "fewer elements in array")
  | json => .error (json.refuse s!"struct {form.name}")

end Form

/-! ### Variants -/

/-- Opens an object that names a variant by its one key. -/
def Source.openVariant (source : Source) (others : List (Json × Json)) :
    Except DecodeError Source :=
  match source with
  | .value => if others.isEmpty then .ok .value else .error .severalKeys
  | .text _ => source.enter

/-- Behind the payload nothing but the close of the object may follow. -/
def closeVariant (others : List (Json × Json)) (ending : Ending) : Except DecodeError Unit :=
  if others.isEmpty then ending.check else .error (.fault .malformed)

namespace Json

/-- The error of a value that names no variant. A text shows by its first character whether it
does. -/
def refuseVariant (source : Source) : Json → DecodeError
  | .gap => .fault .endOfText
  | .scrap true fault _ => .fault fault
  | .obj _ ending =>
    match source, ending with
    | .value, _ => .severalKeys
    | .text 0, _ => .fault .malformed
    | .text _, .broken fault => .fault fault
    | .text _, .closed => .fault .malformed
  | json =>
    match source with
    | .value => .invalidType json.described "string or map"
    | .text _ => .fault .malformed

def readVariantKey (names : List String) (key : Json) : Except DecodeError String :=
  match key with
  | .str name => if names.contains name then .ok name else .error (.unknownVariant name names)
  | json => .error (json.refuse "variant identifier")

/-- One of the cases `names`, alone or with a payload, which `read` makes a value of. -/
def readVariant (names : List String)
    (read : String → Option (Source × Json) → Except DecodeError α) (source : Source) :
    Json → Except DecodeError α
  | .str name => do
    let name ← readVariantKey names (.str name)
    read name none
  | .obj ((key, payload) :: others) ending => do
    let inner ← source.openVariant others
    let name ← readVariantKey names key
    let value ← read name (some (inner, payload))
    closeVariant others ending
    return value
  | json => .error (json.refuseVariant source)

/-- A payload that has to be there. -/
def readPayload (read : Source → Json → Except DecodeError α) :
    Option (Source × Json) → Except DecodeError α
  | some (source, payload) => read source payload
  | none => .error (.invalidType "unit variant" "newtype variant")

/-- A case without a payload may be written with `null` for one. -/
def noPayload (value : α) : Option (Source × Json) → Except DecodeError α
  | some (_, payload) => do
    payload.readUnit
    return value
  | none => .ok value

/-- One of the values `all`, by its name; none of them has a payload. -/
def readPlain (all : List α) (name : α → String) (source : Source) (json : Json) :
    Except DecodeError α :=
  readVariant (all.map name) (fun given payload =>
    match all.find? (name · = given) with
    | some value => noPayload value payload
    | none => .error (.unknownVariant given (all.map name))) source json

end Json

/-! ### Documents -/

/-- How many levels of nesting a text may have. -/
def maxNesting : Nat := 127

/-- Reads all of a text as one value. -/
def Document.read (read : Source → Json → Except DecodeError α) (document : Document) :
    Except DecodeError α := do
  let value ← read (.text maxNesting) document.value
  if document.surplus then throw (.fault .malformed)
  return value

end Scaffold
