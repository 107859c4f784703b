import QueryBlocks.Block.Basic

/-!
# Editing slots

Only object blocks have slots. An edit that cannot be made leaves no block behind but the
reason why.
-/

set_option autoImplicit false

namespace QueryBlocks

inductive SlotError where
  | scalarBlock (field : String)
  | outOfRange (index count : Nat)
deriving DecidableEq

def SlotError.message : SlotError → String
  | .scalarBlock field => "scalar field `" ++ field ++ "` has no child slots"
  | .outOfRange index count =>
    "child slot " ++ toString index ++ " is out of range for " ++ toString count ++ " slots"

namespace Block

abbrev Slots := List (Option Block)

def withSlots {ρ : Type} (edit : Slots → Except SlotError (ρ × Slots)) :
    Block → Except SlotError (ρ × Block)
  | .scalar header => .error (.scalarBlock header.field)
  | .object header slots => do
    let (result, slots) ← edit slots
    return (result, .object header slots)

def addSlot (block : Block) (index : Nat) : Except SlotError (Unit × Block) :=
  block.withSlots fun slots =>
    if index ≤ slots.length then .ok ((), slots.insertIdx index none)
    else .error (.outOfRange index slots.length)

def removeSlot (block : Block) (index : Nat) : Except SlotError (Option Block × Block) :=
  block.withSlots fun slots =>
    match slots[index]? with
    | some held => .ok (held, slots.eraseIdx index)
    | none => .error (.outOfRange index slots.length)

def fillSlot (block : Block) (index : Nat) (child : Block) :
    Except SlotError (Option Block × Block) :=
  block.withSlots fun slots =>
    match slots[index]? with
    | some held => .ok (held, slots.set index (some child))
    | none => .error (.outOfRange index slots.length)

def pushChild (block child : Block) : Except SlotError (Unit × Block) :=
  block.withSlots fun slots => .ok ((), slots ++ [some child])

def setSlotCount (block : Block) (count : Nat) : Except SlotError (Unit × Block) :=
  block.withSlots fun slots =>
    .ok ((), slots.take count ++ List.replicate (count - slots.length) none)

end Block

end QueryBlocks
