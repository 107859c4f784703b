import QueryBlocks.Proofs.Block.Inputs
import QueryBlocks.Proofs.Block.Persistence

/-!
# A block's own state as a document

The document of a block's own state keeps what the block is apart from its values and its children,
and nothing else. What is read from it is what is read of the root of a whole tree once nothing is
bound or plugged in.
-/

set_option autoImplicit false

namespace QueryBlocks

namespace Block

def slotCount? : Block → Option Nat
  | .scalar _ => none
  | .object _ slots => some slots.length

/-- What one block has of another: all that it is on its own, with nothing bound to its parameters
and nothing in its slots. -/
structure KeepsOwn (block own : Block) : Prop where
  endpoint : own.endpoint = block.endpoint
  field : own.header.field = block.header.field
  typeName : own.header.typeName = block.header.typeName
  shape : own.isObject = block.isObject
  parameters : own.header.parameters.map (fun p => (p.name, p.typeName)) =
    block.header.parameters.map fun p => (p.name, p.typeName)
  unbound : ∀ p ∈ own.header.parameters, p.value = none
  slotCount : own.slots.length = block.slots.length
  empty : ∀ slot ∈ own.slots, slot = none
  /-- What only a schema can tell is not kept. -/
  unchecked : own.header.state = .unbound ∧ own.header.description = none ∧
    own.header.typeDescription = none

end Block

namespace Document

open Xml (Element)

theorem ofState_eq (block : Block) : ofState block = ofHeader block.header block.slotCount? := by
  cases block <;> rfl

theorem run_ofStateText_toStateText (block : Block) (next : Nat) :
    (Block.ofStateText block.toStateText).run next =
      match slotCount (ofHeader block.header block.slotCount?) with
      | .ok read => (.ok (blankOf block.header read next), next + 1)
      | .error fault => (.error fault, next) := by
  have hr := root_toText (ofState block) (ofState_eq block ▸ readable_ofHeader _ _)
  have hl := run_loadState block.header block.slotCount? next
  rw [← ofState_eq] at hl ⊢
  rw [Block.ofStateText, Block.toStateText, hr]
  exact hl

/-- A slot count is read back if it is none or not too large. -/
theorem slotCount_ofState (block : Block) :
    slotCount (ofHeader block.header block.slotCount?) =
      if block.slots.length ≤ maxSlots then .ok block.slotCount?
      else .error (.invalidAttribute "gql_fields" (toString block.slots.length)) := by
  rw [slotCount_ofHeader]
  cases block with
  | scalar header => rfl
  | object header slots => rfl

theorem keepsOwn_blankOf (block : Block) (next : Nat) :
    block.KeepsOwn (blankOf block.header block.slotCount? next) := by
  have hp : (block.header.parameters.map unbound).map (fun p => (p.name, p.typeName)) =
      block.header.parameters.map fun p => (p.name, p.typeName) := by
    rw [List.map_map]
    rfl
  have hu : ∀ p ∈ block.header.parameters.map unbound, p.value = none := by
    intro p h
    obtain ⟨q, -, rfl⟩ := List.mem_map.mp h
    rfl
  cases block with
  | scalar header =>
    exact { endpoint := rfl, field := rfl, typeName := rfl, shape := rfl, parameters := hp
            unbound := hu, slotCount := rfl, empty := fun slot h => (nomatch h)
            unchecked := ⟨rfl, rfl, rfl⟩ }
  | object header slots =>
    exact { endpoint := rfl, field := rfl, typeName := rfl, shape := rfl, parameters := hp
            unbound := hu, slotCount := List.length_replicate
            empty := fun slot h => List.eq_of_mem_replicate h
            unchecked := ⟨rfl, rfl, rfl⟩ }

/-- Under which identity a state is read makes no difference, and neither does emptying it. -/
theorem alike_emptied_blankOf (header : Header) (count : Option Nat) (start next : Nat) :
    (blankOf header count start).emptied.Alike (blankOf header count next) := by
  have hp : (header.parameters.map unbound).map unbound = header.parameters.map unbound := by
    rw [List.map_map]
    rfl
  cases count with
  | none => simp [Block.Alike, Block.bare, blankOf, Block.emptied, Block.mapHeaders,
      Header.emptied, Header.anonymous, Header.bare, hp, Header.renewed]
  | some slots => simp [Block.Alike, Block.bare, blankOf, Block.emptied, Block.mapHeaders,
      Header.emptied, Header.anonymous, Header.bare, hp, Header.renewed]

/-- The root of a tree that is read is its own state with values and children added. -/
theorem emptied_loadTree (block tree : Block) (start : Nat)
    (h : ((loadTree (ofTree block)).run start).1 = .ok tree) :
    block.slots.length ≤ maxSlots ∧
      tree.emptied = (blankOf block.header block.slotCount? start).emptied := by
  obtain ⟨state, blank, mid, stop, -, hfirst, hstate, hinputs⟩ := loadTree_eq_ok _ start tree h
  have hs : state = ofHeader block.header block.slotCount? := by
    cases block <;> exact (Option.some.inj hfirst).symm
  rw [hs, run_loadState, slotCount_ofState] at hstate
  by_cases hl : block.slots.length ≤ maxSlots
  · rw [if_pos hl] at hstate
    obtain ⟨hblank, rfl⟩ := Prod.mk.inj hstate
    obtain rfl := Except.ok.inj hblank
    exact ⟨hl, (kept_loadInputs _ _ tree _ stop hinputs).1⟩
  · rw [if_neg hl] at hstate
    cases hstate

end Document

namespace Block

/-- The document of a block's own state is read exactly for scalar blocks and for object blocks
that have no more slots than a document may give. What is read has all that the block is on its
own, and is alike to the root of the tree's document without its values and children. -/
theorem ofStateText_toStateText (block : Block) (next : Nat) :
    ((∃ own, ((ofStateText block.toStateText).run next).1 = .ok own) ↔
      block.isObject = false ∨ block.slots.length ≤ maxSlots) ∧
    (∀ own, ((ofStateText block.toStateText).run next).1 = .ok own → block.KeepsOwn own) ∧
    ∀ start tree, ((ofTreeText block.toTreeText).run start).1 = .ok tree →
      ∃ own, ((ofStateText block.toStateText).run next).1 = .ok own ∧ tree.emptied.Alike own := by
  have hscalar : block.isObject = false → block.slots.length ≤ maxSlots := by
    intro h
    cases block with
    | scalar header => exact Nat.zero_le _
    | object header slots => cases h
  have hread := Document.run_ofStateText_toStateText block next
  rw [Document.slotCount_ofState] at hread
  by_cases hl : block.slots.length ≤ maxSlots
  · rw [if_pos hl] at hread
    rw [hread]
    refine ⟨⟨fun _ => .inr hl, fun _ => ⟨_, rfl⟩⟩, ?_, ?_⟩
    · intro own hown
      cases hown
      exact Document.keepsOwn_blankOf block next
    · intro start tree htree
      rw [run_ofTreeText_toTreeText] at htree
      refine ⟨_, rfl, ?_⟩
      rw [(Document.emptied_loadTree block tree start htree).2]
      exact Document.alike_emptied_blankOf block.header block.slotCount? start next
  · rw [if_neg hl] at hread
    rw [hread]
    refine ⟨⟨fun h => (nomatch h.choose_spec), fun h => ?_⟩, fun own h => (nomatch h), ?_⟩
    · exact absurd (h.elim hscalar fun h => h) hl
    · intro start tree htree
      rw [run_ofTreeText_toTreeText] at htree
      exact absurd (Document.emptied_loadTree block tree start htree).1 hl

/-- Values on parameters that share one name, a hole and children of both shapes. -/
theorem ofStateText_toStateText_mixedTree :
    ∃ tree own, ((ofTreeText mixedTree.toTreeText).run 1).1 = .ok tree ∧
      ((ofStateText mixedTree.toStateText).run 9).1 = .ok own ∧
      mixedTree.KeepsOwn own ∧ tree.emptied.Alike own := by
  have hc : mixedTree.Countable := by unfold Countable; decide
  have htree : ((ofTreeText mixedTree.toTreeText).run 1).1 = .ok (renewed 1 mixedTree).1 := by
    rw [run_ofTreeText_toTreeText, Document.run_loadTree mixedTree 1 hc (by decide)]
  have h := ofStateText_toStateText mixedTree 9
  obtain ⟨own, hown, halike⟩ := h.2.2 1 _ htree
  exact ⟨_, own, htree, hown, h.2.1 own hown, halike⟩

end Block

end QueryBlocks
