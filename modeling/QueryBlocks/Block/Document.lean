import QueryBlocks.Block.Numbering
import QueryBlocks.Block.Slots
import QueryBlocks.Text.Unsigned
import QueryBlocks.Xml.Element

/-!
# Blocks as documents

A block's own state is a `mutation` element: endpoint, field and type as attributes, the
number of slots if it is an object, and a child for each parameter. A tree is a `block`
element that holds the root's state, with a `value` element for each bound parameter and
each filled slot, named by its index.
-/

set_option autoImplicit false

namespace QueryBlocks

open Xml (Element)

inductive LoadError where
  | xml (cause : Xml.Fault)
  | noRoot
  | unexpectedElement (expected found : String)
  | missingAttribute (name : String)
  | invalidAttribute (name value : String)
deriving DecidableEq

def LoadError.message : LoadError → String
  | .xml cause => "XML error: " ++ cause.message
  | .noRoot => "document has no root element"
  | .unexpectedElement expected found =>
    "expected <" ++ expected ++ "> element, found <" ++ found ++ ">"
  | .missingAttribute name => "missing attribute `" ++ name ++ "`"
  | .invalidAttribute name value => "invalid value `" ++ value ++ "` for attribute `" ++ name ++ "`"

def maxSlots : Nat := 1024

def defaultSlots : Nat := 1

namespace Document

def fieldInput : String := "GQL_FIELD"

def parameterInput : String := "GQL_PARAMETER"

def ofParameter (p : Parameter) : Element :=
  .mk "gql_parameter" [("gql_name", p.name), ("gql_type", p.typeName)] [] ""

def ofHeader (header : Header) (slotCount : Option Nat) : Element :=
  .mk "mutation"
    ([("gql_url", header.endpoint), ("gql_name", header.field), ("gql_type", header.typeName),
      ("gql_scalar", if slotCount.isSome then "false" else "true")] ++
      match slotCount with
      | some count => [("gql_fields", toString count)]
      | none => [])
    (header.parameters.map ofParameter) ""

def ofState : Block → Element
  | .scalar header => ofHeader header none
  | .object header slots => ofHeader header (some slots.length)

def plugBlock (type field text : String) : Element :=
  .mk "block" [("type", type)] [.mk Xml.valueElement [("name", field)] [] text] ""

def ofValue : BoundValue → Element
  | .text value => plugBlock "text" "TEXT" value
  | .number value => plugBlock "math_number" "NUM" value.toString
  | .boolean value => plugBlock "logic_boolean" "BOOL" (if value then "TRUE" else "FALSE")
  | .enum name => plugBlock "gql_enum" "ENUM" name

def input (kind : String) (index : Nat) (plugged : Element) : Element :=
  .mk "value" [("name", kind ++ toString index)] [plugged] ""

def ofParameters (index : Nat) : List Parameter → List Element
  | [] => []
  | p :: rest =>
    match p.value with
    | some value => input parameterInput index (ofValue value) :: ofParameters (index + 1) rest
    | none => ofParameters (index + 1) rest

mutual

def ofTree : Block → Element
  | .scalar header =>
    .mk "block" [("type", "gql")]
      (ofHeader header none :: ofParameters 0 header.parameters) ""
  | .object header slots =>
    .mk "block" [("type", "gql")]
      (ofHeader header (some slots.length) :: (ofParameters 0 header.parameters ++ ofSlots 0 slots))
      ""

def ofSlots (index : Nat) : List (Option Block) → List Element
  | [] => []
  | none :: rest => ofSlots (index + 1) rest
  | some child :: rest => input fieldInput index (ofTree child) :: ofSlots (index + 1) rest

end

abbrev Load := TryNumbering LoadError

def require (element : Element) (key : String) : Except LoadError String :=
  match element.attribute? key with
  | some value => .ok value
  | none => .error (.missingAttribute key)

def expectName (expected : String) (element : Element) : Except LoadError Unit :=
  if element.name = expected then .ok () else .error (.unexpectedElement expected element.name)

def readSlotCount (value : String) : Except LoadError Nat :=
  match Text.readUnsigned value.toList with
  | some count =>
    if count ≤ maxSlots then .ok count else .error (.invalidAttribute "gql_fields" value)
  | none => .error (.invalidAttribute "gql_fields" value)

/-- The slots of an object block; a scalar block has no slot count. The number of slots
makes a block an object whatever else is said. -/
def slotCount (element : Element) : Except LoadError (Option Nat) :=
  match element.attribute? "gql_fields" with
  | some value => (readSlotCount value).map some
  | none => .ok (if element.attribute? "gql_scalar" = some "false" then some defaultSlots else none)

def addParameters : List Element → Block → Except LoadError Block
  | [], block => .ok block
  | element :: rest, block =>
    if element.name = "gql_parameter" then do
      let name ← require element "gql_name"
      let typeName ← require element "gql_type"
      addParameters rest (block.mapHeader fun header => header.addParameter name typeName)
    else addParameters rest block

def loadState (element : Element) : Load Block := do
  expectName "mutation" element
  let endpoint ← require element "gql_url"
  let field ← require element "gql_name"
  let typeName ← require element "gql_type"
  let block ← match ← slotCount element with
    | some count => Block.newObject endpoint field typeName count
    | none => Block.newScalar endpoint field typeName
  addParameters element.children block

def firstNamed (name : String) (elements : List Element) : Option Element :=
  elements.find? fun element => element.name == name

def readNumber (text : String) : Except LoadError BoundValue :=
  match Binary64.ofString? text with
  | some x => .ok (.number x)
  | none => .error (.invalidAttribute "NUM" text)

def readBoolean (text : String) : Except LoadError BoundValue :=
  if text = "TRUE" then .ok (.boolean true)
  else if text = "FALSE" then .ok (.boolean false)
  else .error (.invalidAttribute "BOOL" text)

def readValue (element : Element) : Except LoadError BoundValue := do
  expectName "block" element
  let type ← require element "type"
  let text := ((firstNamed Xml.valueElement element.children).map Element.text).getD ""
  if type = "text" then return .text text
  else if type = "math_number" then readNumber text
  else if type = "logic_boolean" then readBoolean text
  else if type = "gql_enum" then return .enum text
  else throw (.invalidAttribute "type" type)

inductive Input where
  | parameter (index : Nat)
  | slot (index : Nat)
deriving DecidableEq

def after? (start text : List Char) : Option (List Char) :=
  if start.isPrefixOf text then some (text.drop start.length) else none

def input? (name : String) : Option Input :=
  match after? parameterInput.toList name.toList with
  | some digits => (Text.readUnsigned digits).map .parameter
  | none =>
    match after? fieldInput.toList name.toList with
    | some digits => (Text.readUnsigned digits).map .slot
    | none => none

def invalidInput (name : String) : LoadError := .invalidAttribute "name" name

def orInvalid {α : Type} (name : String) : Option α → Except LoadError α
  | some value => .ok value
  | none => .error (invalidInput name)

mutual

def loadTree : Element → Load Block
  | .mk name _ children _ => do
    if name ≠ "block" then throw (.unexpectedElement "block" name)
    match firstNamed "mutation" children with
    | none => throw (.missingAttribute "mutation")
    | some state => loadInputs children (← loadState state)

def loadInputs : List Element → Block → Load Block
  | [], block => return block
  | .mk name attributes children text :: rest, block =>
    if name = "value" then do
      let input ← require (.mk name attributes children text) "name"
      loadInputs rest (← loadPlugged input children block)
    else loadInputs rest block

def loadPlugged (input : String) : List Element → Block → Load Block
  | [], block => return block
  | .mk name attributes children text :: rest, block =>
    if name = "block" then do
      match ← orInvalid input (input? input) with
      | .parameter index =>
        let value ← readValue (.mk name attributes children text)
        orInvalid input (block.bindAt? index (some value))
      | .slot index =>
        let child ← loadTree (.mk name attributes children text)
        match block.fillSlot index child with
        | .ok (_, filled) => return filled
        | .error _ => throw (invalidInput input)
    else loadPlugged input rest block

end

def root (text : String) : Except LoadError Element :=
  match Xml.parse text with
  | .ok (some element) => .ok element
  | .ok none => .error .noRoot
  | .error cause => .error (.xml cause)

end Document

namespace Block

def toStateText (block : Block) : String := (Document.ofState block).toText

def toTreeText (block : Block) : String := (Document.ofTree block).toText

def ofStateText (text : String) : Document.Load Block := do
  Document.loadState (← Document.root text)

def ofTreeText (text : String) : Document.Load Block := do
  Document.loadTree (← Document.root text)

end Block

end QueryBlocks
