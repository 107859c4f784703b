import QueryBlocks.Number.Notation
import QueryBlocks.Schema.Basic
import QueryBlocks.Text.Percent

/-!
# Blocks

A block is one selected field of a query. A scalar block is a leaf; an object block has an
ordered list of slots for the blocks below it, and a slot may be empty while the query is
being edited. A block holds no schema: it knows its endpoint and the name of its type.
-/

set_option autoImplicit false

namespace QueryBlocks

/-- The identity of a block within a session, which makes fewer than 2 ^ 64 blocks. Copies share
it. -/
structure BlockId where
  number : Nat
deriving DecidableEq

inductive BoundValue where
  | text (value : String)
  | number (value : Binary64)
  | boolean (value : Bool)
  | enum (name : String)
deriving DecidableEq

structure Parameter where
  name : String
  typeName : String
  value : Option BoundValue
deriving DecidableEq

inductive Condition where
  | typeRemoved (endpoint typeName : String)
  | kindMismatch (typeName : String) (expectedObject : Bool) (found : TypeKind)
deriving DecidableEq

def Condition.message : Condition → String
  | .typeRemoved endpoint typeName =>
    "type `" ++ typeName ++ "` no longer exists at " ++ endpoint
  | .kindMismatch typeName expectedObject found =>
    "type `" ++ typeName ++ "` is now " ++ found.name ++ " but the block was built as " ++
      (if expectedObject then "an object" else "a scalar")

inductive BlockState where
  | unbound
  | bound
  | stale (condition : Condition)
deriving DecidableEq

structure Header where
  id : BlockId
  endpoint : String
  field : String
  typeName : String
  parameters : List Parameter
  state : BlockState
  description : Option String
  typeDescription : Option String
deriving DecidableEq

inductive Block where
  | scalar (header : Header)
  | object (header : Header) (slots : List (Option Block))

def Header.fresh (id : BlockId) (endpoint field typeName : String) : Header :=
  { id, endpoint, field, typeName, parameters := [], state := .unbound
    description := none, typeDescription := none }

namespace Header

def tooltip (header : Header) : Option String := header.description <|> header.typeDescription

def addParameter (header : Header) (name typeName : String) : Header :=
  { header with parameters := header.parameters ++ [{ name, typeName, value := none }] }

def bind (header : Header) (index : Nat) (value : Option BoundValue) : Header :=
  { header with parameters := header.parameters.modify index fun p => { p with value } }

def keptInCheck (c : Char) : Bool :=
  c.isAlphanum || ";,/?:@&=+$-_.!~*'()#".toList.contains c

/-- The check shared by a block's output and the inputs that it fits: the encoded endpoint,
a space and the field. The encoded endpoint has no space, so the two stay apart. -/
def outputCheck (header : Header) : String :=
  Text.percentEncode keptInCheck header.endpoint ++ " " ++ header.field

end Header

namespace Block

def header : Block → Header
  | .scalar header => header
  | .object header _ => header

def isObject : Block → Bool
  | .scalar _ => false
  | .object _ _ => true

def slots : Block → List (Option Block)
  | .scalar _ => []
  | .object _ slots => slots

def mapHeader (f : Header → Header) : Block → Block
  | .scalar header => .scalar (f header)
  | .object header slots => .object (f header) slots

def id (block : Block) : BlockId := block.header.id

def endpoint (block : Block) : String := block.header.endpoint

def child? (block : Block) (index : Nat) : Option Block := block.slots[index]?.join

def bindAt? (block : Block) (index : Nat) (value : Option BoundValue) : Option Block :=
  if index < block.header.parameters.length then
    some (block.mapHeader fun header => header.bind index value)
  else none

def bindNamed? (block : Block) (name : String) (value : Option BoundValue) : Option Block :=
  (block.header.parameters.findIdx? fun p => p.name == name).bind fun index =>
    block.bindAt? index value

mutual

def preorder : Block → List Block
  | .scalar header => [.scalar header]
  | .object header slots => .object header slots :: preorderSlots slots

def preorderSlots : List (Option Block) → List Block
  | [] => []
  | none :: rest => preorderSlots rest
  | some child :: rest => preorder child ++ preorderSlots rest

end

mutual

def mapHeaders (f : Bool → Header → Header) : Block → Block
  | .scalar header => .scalar (f false header)
  | .object header slots => .object (f true header) (mapHeadersSlots f slots)

def mapHeadersSlots (f : Bool → Header → Header) : List (Option Block) → List (Option Block)
  | [] => []
  | none :: rest => none :: mapHeadersSlots f rest
  | some child :: rest => some (mapHeaders f child) :: mapHeadersSlots f rest

end

mutual

/-- Calls back on the block and on all below it, a block before its slots and the slots in order.
The callback is given what a block is without its slots, returns the header that the block gets
and keeps a state of its own. -/
def visit {σ : Type} (f : Bool → Header → StateM σ Header) : Block → StateM σ Block
  | .scalar header => do
    let header ← f false header
    return .scalar header
  | .object header slots => do
    let header ← f true header
    let slots ← visitSlots f slots
    return .object header slots

def visitSlots {σ : Type} (f : Bool → Header → StateM σ Header) :
    List (Option Block) → StateM σ (List (Option Block))
  | [] => return []
  | none :: rest => do
    let rest ← visitSlots f rest
    return none :: rest
  | some child :: rest => do
    let child ← visit f child
    let rest ← visitSlots f rest
    return some child :: rest

end

def find? (block : Block) (id : BlockId) : Option Block :=
  block.preorder.find? fun b => b.id = id

mutual

/-- Changes the first block of an identity in the tree, and hands on what the change
returns; nothing if there is no such block. -/
def edit? {ρ : Type} (id : BlockId) (f : Block → ρ × Block) : Block → Option (ρ × Block)
  | .scalar header => if header.id = id then some (f (.scalar header)) else none
  | .object header slots =>
    if header.id = id then some (f (.object header slots))
    else (editSlots? id f slots).map fun (result, slots) => (result, .object header slots)

def editSlots? {ρ : Type} (id : BlockId) (f : Block → ρ × Block) :
    List (Option Block) → Option (ρ × List (Option Block))
  | [] => none
  | none :: rest => (editSlots? id f rest).map fun (result, rest) => (result, none :: rest)
  | some child :: rest =>
    match edit? id f child with
    | some (result, child) => some (result, some child :: rest)
    | none => (editSlots? id f rest).map fun (result, rest) => (result, some child :: rest)

end

def editPath? {ρ : Type} (f : Block → ρ × Block) : List Nat → Block → Option (ρ × Block)
  | [], block => some (f block)
  | index :: path, block => do
    let child ← block.child? index
    let (result, child) ← editPath? f path child
    return (result, match block with
      | .scalar header => .scalar header
      | .object header slots => .object header (slots.set index (some child)))

def atPath? : List Nat → Block → Option Block
  | [], block => some block
  | index :: path, block => do atPath? path (← block.child? index)

end Block

end QueryBlocks
