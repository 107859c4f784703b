import QueryBlocks.Proofs.Block.Edits

/-!
# Edits of slots

What an edit of slots makes of the list of slots, and what it comes to when it is made at a
place of a tree.
-/

set_option autoImplicit false

namespace QueryBlocks

theorem set_insertIdx {α : Type} (entries : List α) (index : Nat) (first second : α) :
    (entries.insertIdx index first).set index second = entries.insertIdx index second := by
  induction entries generalizing index with
  | nil => cases index <;> simp
  | cons entry rest ih => cases index <;> simp [ih]

section

variable {α : Type}

theorem slots_around (slots : List α) (index : Nat) (held : α) (h : slots[index]? = some held) :
    ∃ before after, slots = before ++ held :: after ∧ before.length = index := by
  obtain ⟨hl, rfl⟩ := List.getElem?_eq_some_iff.mp h
  exact ⟨slots.take index, slots.drop (index + 1), by simp, by simp; omega⟩

theorem insertIdx_around (before after : List α) (entry : α) :
    (before ++ after).insertIdx before.length entry = before ++ entry :: after := by
  induction before with
  | nil => simp
  | cons first rest ih => simpa using ih

theorem eraseIdx_around (before after : List α) (entry : α) :
    (before ++ entry :: after).eraseIdx before.length = before ++ after := by
  simp [List.eraseIdx_append_of_length_le]

theorem modify_around (before after : List α) (entry : α) (f : α → α) :
    (before ++ entry :: after).modify before.length f = before ++ f entry :: after := by
  induction before with
  | nil => simp
  | cons first rest ih => simpa using ih

end

namespace Block

variable (header : Header) (slots : List (Option Block)) (index : Nat)

theorem addSlot_object :
    (Block.object header slots).addSlot index =
      if index ≤ slots.length then .ok ((), .object header (slots.insertIdx index none))
      else .error (.outOfRange index slots.length) := by
  rw [addSlot, withSlots]
  split <;> rfl

theorem removeSlot_object (held : Option Block) (h : slots[index]? = some held) :
    (Block.object header slots).removeSlot index =
      .ok (held, .object header (slots.eraseIdx index)) := by
  rw [removeSlot, withSlots, h]
  rfl

theorem fillSlot_object (held : Option Block) (child : Block) (h : slots[index]? = some held) :
    (Block.object header slots).fillSlot index child =
      .ok (held, .object header (slots.set index (some child))) := by
  rw [fillSlot, withSlots, h]
  rfl

theorem setSlotCount_object (count : Nat) :
    (Block.object header slots).setSlotCount count =
      .ok ((), .object header (slots.take count ++ List.replicate (count - slots.length) none)) :=
  rfl

theorem fillSlot_insertIdx (child : Block) (h : index ≤ slots.length) :
    (Block.object header (slots.insertIdx index none)).fillSlot index child =
      .ok (none, .object header (slots.insertIdx index (some child))) := by
  have hg : (slots.insertIdx index none)[index]? = some none := by
    simp [List.getElem?_insertIdx_self, h]
  rw [fillSlot_object header _ index none child hg, set_insertIdx]

def EditsTo {ρ : Type} (edit : Block → Except SlotError (ρ × Block)) (path : List Nat)
    (tree edited : Block) : Prop :=
  ∃ result, editPath? (attempt edit) path tree = some (.ok result, edited)

theorem attempt_of_ok {ρ : Type} (edit : Block → Except SlotError (ρ × Block))
    (block after : Block) (result : ρ) (h : edit block = .ok (result, after)) :
    attempt edit block = (.ok result, after) := by
  rw [attempt, h]

/-- An edit that succeeds on the block at a place succeeds on the tree, and leaves at the place
what it makes of the block. -/
theorem exists_editsTo {ρ : Type} (edit : Block → Except SlotError (ρ × Block))
    (path : List Nat) (tree block after : Block) (result : ρ)
    (hb : atPath? path tree = some block) (h : edit block = .ok (result, after)) :
    ∃ edited, EditsTo edit path tree edited ∧ atPath? path edited = some after := by
  have ha := attempt_of_ok edit block after result h
  obtain ⟨edited, he⟩ := exists_editPath? (attempt edit) path tree block hb
  have hp := atPath?_editPath? (attempt edit) path tree block edited _ hb he
  rw [ha] at he hp
  exact ⟨edited, ⟨result, he⟩, hp⟩

end Block

end QueryBlocks
