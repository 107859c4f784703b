import QueryBlocks.Block.Basic
import QueryBlocks.Schema.Template

/-!
# Numbering new blocks

Blocks are numbered in the order in which they are made. A session carries the number of
the next block; a block that is made and then discarded has used its number up.
-/

set_option autoImplicit false

namespace QueryBlocks

/-- A computation that makes blocks: its state is the number of the next one. -/
abbrev Numbering := StateM Nat

abbrev TryNumbering (ε : Type) := ExceptT ε Numbering

def nextId : Numbering BlockId := fun next => ({ number := next }, next + 1)

namespace Block

def newScalar (endpoint field typeName : String) : Numbering Block := do
  return .scalar (Header.fresh (← nextId) endpoint field typeName)

def newObject (endpoint field typeName : String) (slotCount : Nat) : Numbering Block := do
  return .object (Header.fresh (← nextId) endpoint field typeName) (List.replicate slotCount none)

def ofTemplate (template : Template) : Numbering Block := do
  let block ←
    if template.isObject then newObject template.endpoint template.field template.typeName 1
    else newScalar template.endpoint template.field template.typeName
  return block.mapHeader fun header =>
    { header with
      parameters := template.parameters.map fun p =>
        { name := p.name, typeName := p.typeName, value := none }
      description := template.description }

end Block

end QueryBlocks
