import QueryBlocks.Block.Basic

/-!
# Sameness of blocks

Two blocks are the same if all they carry is, identities included. Numbers are compared by
value, so a block that carries a not-a-number is not the same as itself.
-/

set_option autoImplicit false

namespace QueryBlocks

def BoundValue.same : BoundValue → BoundValue → Bool
  | .text a, .text b => a == b
  | .number a, .number b => a.sameValue b
  | .boolean a, .boolean b => a == b
  | .enum a, .enum b => a == b
  | _, _ => false

def Parameter.same (a b : Parameter) : Bool :=
  a.name == b.name && a.typeName == b.typeName &&
    match a.value, b.value with
    | none, none => true
    | some x, some y => x.same y
    | _, _ => false

def Header.same (a b : Header) : Bool :=
  decide ({ a with parameters := [] } = { b with parameters := [] }) &&
    a.parameters.length == b.parameters.length &&
    (a.parameters.zip b.parameters).all fun (p, q) => p.same q

namespace Block

mutual

def same : Block → Block → Bool
  | .scalar a, .scalar b => a.same b
  | .object a xs, .object b ys => a.same b && sameSlots xs ys
  | _, _ => false

def sameSlots : List (Option Block) → List (Option Block) → Bool
  | [], [] => true
  | none :: xs, none :: ys => sameSlots xs ys
  | some x :: xs, some y :: ys => same x y && sameSlots xs ys
  | _, _ => false

end

end Block

end QueryBlocks
