import QueryBlocks.Proofs.Block.Numbering
import QueryBlocks.Proofs.Block.Slots
import QueryBlocks.Proofs.Workspace.Synchronisation

/-!
# Making blocks in a workspace

What the making of a block comes to: the next number is used up, the block is checked before
anyone sees it, and the workspace is told in a fixed order. A child whose slot cannot be made
uses no number and nobody is told of it.
-/

set_option autoImplicit false

namespace QueryBlocks

namespace SchemaCache

variable (cache : SchemaCache) (template : Template)

def created (next : Nat) : Block := (cache.revalidate (template.block next)).2

def announce (next : Nat) (workspace : Workspace) : Workspace :=
  (workspace.record (.created { number := next })).deliver { number := next }
    (cache.revalidate (template.block next)).1

theorem header_created (next : Nat) :
    (cache.created template next).header =
      (cache.revalidateHeader template.isObject (template.header next)).2 := by
  rw [created, header_revalidate, template.isObject_block, template.header_block]

theorem isObject_created (next : Nat) :
    (cache.created template next).isObject = template.isObject := by
  rw [created, isObject_revalidate, template.isObject_block]

/-- A new block has no blocks below it. -/
theorem preorder_created (next : Nat) :
    (cache.created template next).preorder = [cache.created template next] := by
  rw [created, revalidate, Template.block]
  split <;> rfl

theorem id_created (next : Nat) : (cache.created template next).id = { number := next } := by
  obtain ⟨state, typeDescription, h⟩ :=
    cache.revalidateHeader_frame template.isObject (template.header next)
  rw [Block.id, header_created, h]
  rfl

theorem run_newBlock (next : Nat) :
    (cache.newBlock template).run next =
      (cache.revalidate (template.block next), next + 1) := by
  change (cache.revalidate ((Block.ofTemplate template).run next).1,
    ((Block.ofTemplate template).run next).2) = _
  rw [template.run_ofTemplate]

theorem run_createBlock (next : Nat) (workspace : Workspace) :
    (cache.createBlock template workspace).run next =
      ((cache.created template next, cache.announce template next workspace), next + 1) := by
  have h : (cache.createBlock template workspace).run next =
      let made := ((cache.newBlock template).run next).1
      ((made.2, (workspace.record (.created made.2.id)).deliver made.2.id made.1),
        ((cache.newBlock template).run next).2) := rfl
  rw [h, run_newBlock]
  change ((cache.created template next,
    (workspace.record (.created (cache.created template next).id)).deliver
      (cache.created template next).id _), _) = _
  rw [id_created]
  rfl

theorem run_newChild (index next : Nat) (parent : Block) :
    (cache.newChild index template parent).run next =
      match parent with
      | .scalar header => (.error (.scalarBlock header.field), next)
      | .object header slots =>
        if index ≤ slots.length then
          (.ok ((cache.revalidate (template.block next)).1, cache.created template next,
            .object header (slots.insertIdx index (some (cache.created template next)))),
            next + 1)
        else (.error (.outOfRange index slots.length), next) := by
  rw [newChild, run_bind, run_ofExcept]
  cases parent with
  | scalar header => rfl
  | object header slots =>
    rw [Block.addSlot_object]
    by_cases h : index ≤ slots.length
    · simp only [if_pos h, run_bind, run_ofNumbering, run_newBlock, run_ofExcept]
      rw [← created, Block.fillSlot_insertIdx header slots index _ h]
      rfl
    · simp only [if_neg h]

/-- A child in a new slot: a scalar block has no slots, and an index beyond the last slot is
refused, both before a block is made. -/
theorem run_insertChild (index next : Nat) (parent : Block) (workspace : Workspace) :
    (cache.insertChild index template parent workspace).run next =
      match parent with
      | .scalar header => (.error (.scalarBlock header.field), next)
      | .object header slots =>
        if index ≤ slots.length then
          (.ok ({ number := next },
            .object header (slots.insertIdx index (some (cache.created template next))),
            (cache.announce template next workspace).record (.structureChanged header.id)),
            next + 1)
        else (.error (.outOfRange index slots.length), next) := by
  rw [insertChild, run_bind, run_newChild]
  cases parent with
  | scalar header => rfl
  | object header slots =>
    by_cases h : index ≤ slots.length
    · simp only [if_pos h, id_created]
      rfl
    · simp only [if_neg h]

end SchemaCache

end QueryBlocks
