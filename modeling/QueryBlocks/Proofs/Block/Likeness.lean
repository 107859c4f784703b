import QueryBlocks.Block.Numbering

/-!
# Alike blocks

A block apart from its identity and from what the schema said about it: two blocks are alike
if they agree on that, at every place of the tree. A copy of a tree with new identities is
alike to the tree and has not been checked against any schema.
-/

set_option autoImplicit false

namespace QueryBlocks

def Header.bare (header : Header) : Header :=
  { header with
    id := { number := 0 }, state := .unbound, description := none, typeDescription := none }

def Header.renewed (header : Header) (next : Nat) : Header :=
  { header.bare with id := { number := next } }

namespace Block

def bare (block : Block) : Block := block.mapHeaders fun _ header => header.bare

/-- Endpoint, field, type, shape, parameters with their values and filled slots agree, at
every block of the tree. -/
def Alike (a b : Block) : Prop := a.bare = b.bare

/-- No block of the tree carries anything that only a schema can tell. -/
def Unchecked (block : Block) : Prop :=
  ∀ b ∈ block.preorder,
    b.header.state = .unbound ∧ b.header.description = none ∧ b.header.typeDescription = none

mutual

def renewed (next : Nat) : Block → Block × Nat
  | .scalar header => (.scalar (header.renewed next), next + 1)
  | .object header slots =>
    (.object (header.renewed next) (renewedSlots (next + 1) slots).1,
      (renewedSlots (next + 1) slots).2)

def renewedSlots (next : Nat) : List (Option Block) → List (Option Block) × Nat
  | [] => ([], next)
  | none :: rest => (none :: (renewedSlots next rest).1, (renewedSlots next rest).2)
  | some child :: rest =>
    (some (renewed next child).1 :: (renewedSlots (renewed next child).2 rest).1,
      (renewedSlots (renewed next child).2 rest).2)

end

mutual

theorem bare_renewed (next : Nat) (block : Block) : (renewed next block).1.bare = block.bare := by
  match block with
  | .scalar header => rfl
  | .object header slots =>
    exact congrArg (Block.object header.bare) (bare_renewedSlots (next + 1) slots)

theorem bare_renewedSlots (next : Nat) (slots : List (Option Block)) :
    mapHeadersSlots (fun _ header => header.bare) (renewedSlots next slots).1 =
      mapHeadersSlots (fun _ header => header.bare) slots := by
  match slots with
  | [] => rfl
  | none :: rest =>
    rw [renewedSlots, mapHeadersSlots, mapHeadersSlots, bare_renewedSlots next rest]
  | some child :: rest =>
    have hc := bare_renewed next child
    rw [bare, bare] at hc
    rw [renewedSlots, mapHeadersSlots, mapHeadersSlots, hc,
      bare_renewedSlots (renewed next child).2 rest]

end

theorem alike_renewed (next : Nat) (block : Block) : block.Alike (renewed next block).1 :=
  (bare_renewed next block).symm

mutual

theorem unchecked_renewed (next : Nat) (block : Block) : (renewed next block).1.Unchecked := by
  match block with
  | .scalar header =>
    intro b hb
    rw [renewed, preorder, List.mem_singleton] at hb
    subst hb
    exact ⟨rfl, rfl, rfl⟩
  | .object header slots =>
    intro b hb
    rw [renewed, preorder, List.mem_cons] at hb
    rcases hb with rfl | hb
    · exact ⟨rfl, rfl, rfl⟩
    · exact unchecked_renewedSlots (next + 1) slots b hb

theorem unchecked_renewedSlots (next : Nat) (slots : List (Option Block)) :
    ∀ b ∈ preorderSlots (renewedSlots next slots).1,
      b.header.state = .unbound ∧ b.header.description = none ∧
        b.header.typeDescription = none := by
  match slots with
  | [] =>
    intro b hb
    cases hb
  | none :: rest =>
    rw [renewedSlots, preorderSlots]
    exact unchecked_renewedSlots next rest
  | some child :: rest =>
    intro b hb
    rw [renewedSlots, preorderSlots, List.mem_append] at hb
    rcases hb with hb | hb
    · exact unchecked_renewed next child b hb
    · exact unchecked_renewedSlots (renewed next child).2 rest b hb

end

end Block

end QueryBlocks
