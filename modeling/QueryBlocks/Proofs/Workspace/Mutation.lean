import QueryBlocks.Proofs.Block.Locality
import QueryBlocks.Proofs.Block.Slots

/-!
# Edits of one block of a workspace

An edit that names its block by identity changes that block as the edit says and no other, and
is told to the workspace. One that cannot be made is told all the same and changes nothing; one
whose block is not there is not even told.
-/

set_option autoImplicit false

namespace QueryBlocks

inductive Mutation where
  | addSlot (index : Nat)
  | removeSlot (index : Nat)
  | fillSlot (index : Nat) (child : Block)
  | pushChild (child : Block)
  | setSlotCount (count : Nat)
  | bind (index : Nat) (value : Option BoundValue)

namespace Mutation

inductive Answer where
  | settled (result : Except SlotError Unit)
  | taken (held : Option (Option Block))
  | replaced (result : Except SlotError (Option Block))
  | bound (found : Bool)

def apply : Mutation → Block → Answer × Block
  | .addSlot index, block => (block.attempt fun b => b.addSlot index).map .settled id
  | .removeSlot index, block =>
    (block.attempt fun b => b.removeSlot index).map (fun result => .taken result.toOption) id
  | .fillSlot index child, block =>
    (block.attempt fun b => b.fillSlot index child).map .replaced id
  | .pushChild child, block => (block.attempt fun b => b.pushChild child).map .settled id
  | .setSlotCount count, block => (block.attempt fun b => b.setSlotCount count).map .settled id
  | .bind index value, block =>
    match block.bindAt? index value with
    | some after => (.bound true, after)
    | none => (.bound false, block)

inductive Does : Mutation → Block → Answer → Block → Prop where
  | added (header : Header) (before after : Block.Slots) :
    Does (.addSlot before.length) (.object header (before ++ after)) (.settled (.ok ()))
      (.object header (before ++ none :: after))
  | removed (header : Header) (before : Block.Slots) (held : Option Block)
      (after : Block.Slots) :
    Does (.removeSlot before.length) (.object header (before ++ held :: after))
      (.taken (some held)) (.object header (before ++ after))
  | filled (header : Header) (before : Block.Slots) (held : Option Block) (after : Block.Slots)
      (child : Block) :
    Does (.fillSlot before.length child) (.object header (before ++ held :: after))
      (.replaced (.ok held)) (.object header (before ++ some child :: after))
  | pushed (header : Header) (slots : Block.Slots) (child : Block) :
    Does (.pushChild child) (.object header slots) (.settled (.ok ()))
      (.object header (slots ++ [some child]))
  | cut (header : Header) (before after : Block.Slots) :
    Does (.setSlotCount before.length) (.object header (before ++ after)) (.settled (.ok ()))
      (.object header before)
  | padded (header : Header) (slots : Block.Slots) (more : Nat) :
    Does (.setSlotCount (slots.length + more)) (.object header slots) (.settled (.ok ()))
      (.object header (slots ++ List.replicate more none))
  | bound (block : Block) (before : List Parameter) (p : Parameter) (after : List Parameter)
      (value : Option BoundValue) (h : block.header.parameters = before ++ p :: after) :
    Does (.bind before.length value) block (.bound true)
      (block.mapHeader fun header =>
        { header with parameters := before ++ { p with value } :: after })

inductive Reports : Mutation → SlotError → Answer → Prop where
  | addSlot (index : Nat) (cause : SlotError) :
    Reports (.addSlot index) cause (.settled (.error cause))
  | removeSlot (index : Nat) (cause : SlotError) : Reports (.removeSlot index) cause (.taken none)
  | fillSlot (index : Nat) (child : Block) (cause : SlotError) :
    Reports (.fillSlot index child) cause (.replaced (.error cause))
  | pushChild (child : Block) (cause : SlotError) :
    Reports (.pushChild child) cause (.settled (.error cause))
  | setSlotCount (count : Nat) (cause : SlotError) :
    Reports (.setSlotCount count) cause (.settled (.error cause))

inductive Refuses : Mutation → Block → Answer → Prop where
  | scalar (mutation : Mutation) (header : Header) (answer : Answer)
      (h : Reports mutation (.scalarBlock header.field) answer) :
    Refuses mutation (.scalar header) answer
  | addSlot (header : Header) (slots : Block.Slots) (index : Nat) (h : slots.length < index) :
    Refuses (.addSlot index) (.object header slots)
      (.settled (.error (.outOfRange index slots.length)))
  | removeSlot (header : Header) (slots : Block.Slots) (index : Nat) (h : slots.length ≤ index) :
    Refuses (.removeSlot index) (.object header slots) (.taken none)
  | fillSlot (header : Header) (slots : Block.Slots) (index : Nat) (child : Block)
      (h : slots.length ≤ index) :
    Refuses (.fillSlot index child) (.object header slots)
      (.replaced (.error (.outOfRange index slots.length)))
  | bind (block : Block) (index : Nat) (value : Option BoundValue)
      (h : block.header.parameters.length ≤ index) :
    Refuses (.bind index value) block (.bound false)

theorem apply_of_does (mutation : Mutation) (block edited : Block) (answer : Answer)
    (h : mutation.Does block answer edited) : mutation.apply block = (answer, edited) := by
  cases h with
  | added header before after =>
    simp [apply, Block.attempt, Block.addSlot_object, insertIdx_around]
  | removed header before held after =>
    simp [apply, Block.attempt, Block.removeSlot_object header _ _ held, eraseIdx_around,
      Except.toOption]
  | filled header before held after child =>
    simp [apply, Block.attempt, Block.fillSlot_object header _ _ held]
  | pushed header slots child => rfl
  | cut header before after =>
    simp [apply, Block.attempt, Block.setSlotCount_object]
  | padded header slots more =>
    simp [apply, Block.attempt, Block.setSlotCount_object, List.take_of_length_le]
  | bound block before p after value h =>
    have hl : before.length < block.header.parameters.length := by simp [h]
    have hb (header : Header) (hp : header.parameters = before ++ p :: after) :
        header.bind before.length value =
          { header with parameters := before ++ { p with value } :: after } := by
      simp [Header.bind, hp, modify_around]
    cases block with
    | scalar header => simp [apply, Block.bindAt?, hl, Block.mapHeader, hb header h]
    | object header slots => simp [apply, Block.bindAt?, hl, Block.mapHeader, hb header h]

theorem apply_of_refuses (mutation : Mutation) (block : Block) (answer : Answer)
    (h : mutation.Refuses block answer) : mutation.apply block = (answer, block) := by
  cases h with
  | scalar mutation header answer h => cases h <;> rfl
  | addSlot header slots index h =>
    simp [apply, Block.attempt, Block.addSlot_object, Nat.not_le.mpr h]
  | removeSlot header slots index h =>
    simp [apply, Block.attempt, Block.removeSlot, Block.withSlots, h, Except.toOption]
  | fillSlot header slots index child h =>
    simp [apply, Block.attempt, Block.fillSlot, Block.withSlots, h]
  | bind block index value h => simp [apply, Block.bindAt?, Nat.not_lt.mpr h]

theorem bind_does_or_refuses (index : Nat) (value : Option BoundValue) (block : Block) :
    (∃ answer edited, (bind index value).Does block answer edited) ∨
      ∃ answer, (bind index value).Refuses block answer := by
  by_cases h : index < block.header.parameters.length
  · obtain ⟨before, after, hp, rfl⟩ := slots_around _ index _ (List.getElem?_eq_getElem h)
    exact .inl ⟨_, _, .bound block before _ after value hp⟩
  · exact .inr ⟨_, .bind block index value (by omega)⟩

/-- Every edit can be made of a block or cannot. -/
theorem does_or_refuses (mutation : Mutation) (block : Block) :
    (∃ answer edited, mutation.Does block answer edited) ∨
      ∃ answer, mutation.Refuses block answer := by
  cases block with
  | scalar header =>
    cases mutation with
    | addSlot index => exact .inr ⟨_, .scalar _ header _ (.addSlot index _)⟩
    | removeSlot index => exact .inr ⟨_, .scalar _ header _ (.removeSlot index _)⟩
    | fillSlot index child => exact .inr ⟨_, .scalar _ header _ (.fillSlot index child _)⟩
    | pushChild child => exact .inr ⟨_, .scalar _ header _ (.pushChild child _)⟩
    | setSlotCount count => exact .inr ⟨_, .scalar _ header _ (.setSlotCount count _)⟩
    | bind index value => exact bind_does_or_refuses index value (.scalar header)
  | object header slots =>
    cases mutation with
    | addSlot index =>
      by_cases h : index ≤ slots.length
      · have hd := Does.added header (slots.take index) (slots.drop index)
        rw [List.take_append_drop, List.length_take, Nat.min_eq_left h] at hd
        exact .inl ⟨_, _, hd⟩
      · exact .inr ⟨_, .addSlot header slots index (by omega)⟩
    | removeSlot index =>
      cases h : slots[index]? with
      | some held =>
        obtain ⟨before, after, rfl, rfl⟩ := slots_around slots index held h
        exact .inl ⟨_, _, .removed header before held after⟩
      | none => exact .inr ⟨_, .removeSlot header slots index (List.getElem?_eq_none_iff.mp h)⟩
    | fillSlot index child =>
      cases h : slots[index]? with
      | some held =>
        obtain ⟨before, after, rfl, rfl⟩ := slots_around slots index held h
        exact .inl ⟨_, _, .filled header before held after child⟩
      | none =>
        exact .inr ⟨_, .fillSlot header slots index child (List.getElem?_eq_none_iff.mp h)⟩
    | pushChild child => exact .inl ⟨_, _, .pushed header slots child⟩
    | setSlotCount count =>
      by_cases h : count ≤ slots.length
      · have hd := Does.cut header (slots.take count) (slots.drop count)
        rw [List.take_append_drop, List.length_take, Nat.min_eq_left h] at hd
        exact .inl ⟨_, _, hd⟩
      · have hd := Does.padded header slots (count - slots.length)
        rw [Nat.add_sub_of_le (by omega)] at hd
        exact .inl ⟨_, _, hd⟩
    | bind index value => exact bind_does_or_refuses index value (.object header slots)

theorem id_apply (mutation : Mutation) (block : Block) :
    (mutation.apply block).2.id = block.id := by
  rcases mutation.does_or_refuses block with ⟨answer, edited, h⟩ | ⟨answer, h⟩
  · rw [mutation.apply_of_does block edited answer h]
    cases h with
    | bound block before p after value h => cases block <;> rfl
    | _ => rfl
  · rw [mutation.apply_of_refuses block answer h]

end Mutation

namespace Workspace

def perform (workspace : Workspace) (id : BlockId) (mutation : Mutation) :
    Option Mutation.Answer × Workspace :=
  match workspace.mutate? id mutation.apply with
  | some (answer, after) => (some answer, after)
  | none => (none, workspace)

/-- What has changed after an edit of the block of an identity at a place: there stands the edited
block, and at every place that is not below it the same block with the same blocks in its slots. -/
structure ChangedAt (id : BlockId) (root : Nat) (path : List Nat) (edited : Block)
    (before after : Workspace) : Prop where
  here : after.blockAt? root path = some edited
  elsewhere : ∀ otherRoot other, ¬ (otherRoot = root ∧ path <+: other) →
    (after.blockAt? otherRoot other).map Block.face =
      (before.blockAt? otherRoot other).map Block.face
  results : after.results = before.results
  log : after.events = before.events ++ [.structureChanged id]

variable (workspace : Workspace) (mutation : Mutation)

theorem ids_blocks : workspace.blocks.map Block.id = workspace.roots.flatMap Block.ids := by
  rw [blocks, List.map_flatMap]
  rfl

theorem perform_absent (id : BlockId) (h : ∀ block ∈ workspace.blocks, block.id ≠ id) :
    workspace.perform id mutation = (none, workspace) := by
  have hn := (Block.editRoots?_eq_none mutation.apply id workspace.roots).mpr h
  simp [perform, mutate?, hn]

/-- Where all identities differ, an edit by identity is made at the place of the block. -/
theorem perform_at (hn : (workspace.blocks.map Block.id).Nodup) (root : Nat) (path : List Nat)
    (block : Block) (hb : workspace.blockAt? root path = some block) :
    ∃ roots, Block.editForest? mutation.apply root path workspace.roots =
        some ((mutation.apply block).1, roots) ∧
      workspace.perform block.id mutation = (some (mutation.apply block).1,
        { workspace with roots }.record (.structureChanged block.id)) := by
  rw [ids_blocks] at hn
  obtain ⟨roots, hr, hf⟩ :=
    Block.editRoots?_at mutation.apply workspace.roots hn root path block hb
  exact ⟨roots, hf, by simp [perform, mutate?, hr]⟩

theorem changedAt_editForest? (root : Nat) (path : List Nat) (block : Block)
    (hb : workspace.blockAt? root path = some block) (roots : List Block)
    (h : Block.editForest? mutation.apply root path workspace.roots =
      some ((mutation.apply block).1, roots)) :
    ChangedAt block.id root path (mutation.apply block).2 workspace
      ({ workspace with roots }.record (.structureChanged block.id)) := by
  obtain ⟨tree, edited, ht, he, rfl⟩ :=
    (Block.editForest?_eq_some mutation.apply root path workspace.roots roots _).mp h
  obtain ⟨hr, hget⟩ := List.getElem?_eq_some_iff.mp ht
  have hat : Block.atPath? path tree = some block := by simpa [blockAt?, ht] using hb
  refine ⟨?_, ?_, rfl, rfl⟩
  · simpa [blockAt?, record, hr] using
      Block.atPath?_editPath? mutation.apply path tree block edited _ hat he
  · intro otherRoot other ho
    by_cases hroot : root = otherRoot
    · subst hroot
      have hother : ¬ path <+: other := by simpa using ho
      simpa [blockAt?, record, hr, hget] using
        Block.face_editPath? mutation.apply mutation.id_apply path other tree edited _ he hother
    · simp [blockAt?, record, hroot]

/-- An edit by identity, where all identities differ. Without a block of the identity nothing
happens. Otherwise the edit is told to the workspace; if it can be made, the block becomes what
the edit says and every other block stays as it is, and if it cannot, nothing else happens. -/
theorem perform_local (hn : (workspace.blocks.map Block.id).Nodup) (id : BlockId) :
    ((∀ block ∈ workspace.blocks, block.id ≠ id) →
      workspace.perform id mutation = (none, workspace)) ∧
    ∀ root path block, workspace.blockAt? root path = some block → block.id = id →
      (∀ answer edited, mutation.Does block answer edited →
        ∃ after, workspace.perform id mutation = (some answer, after) ∧
          ChangedAt id root path edited workspace after) ∧
      (∀ answer, mutation.Refuses block answer →
        workspace.perform id mutation =
          (some answer, workspace.record (.structureChanged id))) ∧
      ((∃ answer edited, mutation.Does block answer edited) ∨
        ∃ answer, mutation.Refuses block answer) := by
  refine ⟨workspace.perform_absent mutation id, ?_⟩
  rintro root path block hb rfl
  obtain ⟨roots, hf, hp⟩ := workspace.perform_at mutation hn root path block hb
  have hchanged := workspace.changedAt_editForest? mutation root path block hb roots hf
  refine ⟨?_, ?_, mutation.does_or_refuses block⟩
  · intro answer edited h
    rw [mutation.apply_of_does block edited answer h] at hp hchanged
    exact ⟨_, hp, hchanged⟩
  · intro answer h
    obtain ⟨tree, edited, ht, he, rfl⟩ := (Block.editForest?_eq_some _ _ _ _ _ _).mp hf
    have hat : Block.atPath? path tree = some block := by simpa [blockAt?, ht] using hb
    have happly := mutation.apply_of_refuses block answer h
    have hsame : edited = tree := Block.editPath?_unchanged mutation.apply path tree block edited _
      hat (by rw [happly]) he
    obtain ⟨hr, hget⟩ := List.getElem?_eq_some_iff.mp ht
    have hroots : workspace.roots.set root edited = workspace.roots := by
      rw [hsame, ← hget, List.set_getElem_self]
    rw [happly, hroots] at hp
    exact hp

def shelfHeader (number : Nat) (field : String) : Header := .fresh { number } "e" field "T"

def shelf : Workspace where
  roots := [.object (shelfHeader 0 "pokemon")
    [some (.scalar (shelfHeader 1 "name")), none,
      some (.object (shelfHeader 2 "moves") [none, some (.scalar (shelfHeader 3 "power"))])]]
  results := []
  events := []

/-- On the shelf, an edit of a block that is not there, one that is made and one that is not. -/
theorem perform_local_shelf :
    (shelf.blocks.map Block.id).Nodup ∧
    shelf.perform { number := 4 } (.setSlotCount 0) = (none, shelf) ∧
    (∃ after, shelf.perform { number := 2 } (.removeSlot 1) =
        (some (.taken (some (some (.scalar (shelfHeader 3 "power"))))), after) ∧
      ChangedAt { number := 2 } 0 [2] (.object (shelfHeader 2 "moves") [none]) shelf after) ∧
    shelf.perform { number := 1 } (.addSlot 0) =
      (some (.settled (.error (.scalarBlock "name"))),
        shelf.record (.structureChanged { number := 1 })) := by
  have hn : (shelf.blocks.map Block.id).Nodup := by decide
  refine ⟨hn, (shelf.perform_local _ hn _).1 (by decide), ?_, ?_⟩
  · apply ((shelf.perform_local _ hn _).2 0 [2] _ rfl rfl).1
    exact .removed (shelfHeader 2 "moves") [none] _ []
  · apply ((shelf.perform_local _ hn _).2 0 [0] _ rfl rfl).2.1
    exact .scalar _ (shelfHeader 1 "name") _ (.addSlot 0 _)

end Workspace

end QueryBlocks
