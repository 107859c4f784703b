import Mathlib.Data.List.Nodup
import QueryBlocks.Proofs.Block.Marks

/-!
# Edits by identity are local

An edit by identity is an edit at a place, that of a block with the identity. Where all blocks
have identities of their own there is one such place, and at every place that is not below it
the forest shows the same block with the same blocks in its slots.
-/

set_option autoImplicit false

namespace QueryBlocks.Block

def face : Block → Header × Option (List (Option BlockId))
  | .scalar header => (header, none)
  | .object header slots => (header, some (slots.map (Option.map Block.id)))

section

variable {ρ : Type} (f : Block → ρ × Block) (id : BlockId)

mutual

theorem edit?_eq_none (block : Block) :
    edit? id f block = none ↔ ∀ b ∈ block.preorder, b.id ≠ id := by
  match block with
  | .scalar header => simp [edit?, preorder, Block.id, Block.header]
  | .object header slots =>
    by_cases h : header.id = id
    · simp [edit?, preorder, Block.id, Block.header, h]
    · simpa [edit?, preorder, Block.id, Block.header, h] using editSlots?_eq_none slots

theorem editSlots?_eq_none (slots : Slots) :
    editSlots? id f slots = none ↔ ∀ b ∈ preorderSlots slots, b.id ≠ id := by
  match slots with
  | [] => simp [editSlots?, preorderSlots]
  | none :: rest => simpa [editSlots?, preorderSlots] using editSlots?_eq_none rest
  | some child :: rest =>
    simp only [preorderSlots, List.forall_mem_append, ← edit?_eq_none child,
      ← editSlots?_eq_none rest]
    cases hc : edit? id f child <;> simp [editSlots?, hc]

end

theorem editPath?_object (header : Header) (slots : Slots) (index : Nat) (path : List Nat)
    (child edited : Block) (result : ρ) (hc : slots[index]? = some (some child))
    (he : editPath? f path child = some (result, edited)) :
    editPath? f (index :: path) (.object header slots) =
      some (result, .object header (slots.set index (some edited))) := by
  simp [editPath?, child?, Block.slots, hc, he]

mutual

theorem exists_path_edit? (block : Block) (found : ρ × Block) (h : edit? id f block = some found) :
    ∃ path b, atPath? path block = some b ∧ b.id = id ∧ editPath? f path block = some found := by
  match block with
  | .scalar header =>
    by_cases hi : header.id = id
    · exact ⟨[], .scalar header, rfl, hi, by simpa [edit?, editPath?, hi] using h⟩
    · simp [edit?, hi] at h
  | .object header slots =>
    by_cases hi : header.id = id
    · exact ⟨[], .object header slots, rfl, hi, by simpa [edit?, editPath?, hi] using h⟩
    · simp only [edit?, hi, if_false, Option.map_eq_some_iff] at h
      obtain ⟨⟨result, after⟩, hs, rfl⟩ := h
      obtain ⟨index, child, path, b, edited, hc, hb, hid, he, rfl⟩ :=
        exists_slot_editSlots? slots after result hs
      refine ⟨index :: path, b, ?_, hid, editPath?_object f header slots index path _ _ _ hc he⟩
      simp [atPath?_cons, child?, Block.slots, hc, hb]

theorem exists_slot_editSlots? (slots after : Slots) (result : ρ)
    (h : editSlots? id f slots = some (result, after)) :
    ∃ (index : Nat) (child : Block) (path : List Nat) (b edited : Block),
      slots[index]? = some (some child) ∧ atPath? path child = some b ∧ b.id = id ∧
        editPath? f path child = some (result, edited) ∧
        after = slots.set index (some edited) := by
  match slots with
  | [] => simp [editSlots?] at h
  | none :: rest =>
    simp only [editSlots?, Option.map_eq_some_iff] at h
    obtain ⟨⟨result, others⟩, hr, h⟩ := h
    cases h
    obtain ⟨index, child, path, b, edited, hc, hb, hid, he, rfl⟩ :=
      exists_slot_editSlots? rest others result hr
    exact ⟨index + 1, child, path, b, edited, hc, hb, hid, he, rfl⟩
  | some first :: rest =>
    cases hf : edit? id f first with
    | some found =>
      simp only [editSlots?, hf] at h
      cases h
      obtain ⟨path, b, hb, hid, he⟩ := exists_path_edit? first _ hf
      exact ⟨0, first, path, b, found.2, rfl, hb, hid, he, rfl⟩
    | none =>
      simp only [editSlots?, hf, Option.map_eq_some_iff] at h
      obtain ⟨⟨result, others⟩, hr, h⟩ := h
      cases h
      obtain ⟨index, child, path, b, edited, hc, hb, hid, he, rfl⟩ :=
        exists_slot_editSlots? rest others result hr
      exact ⟨index + 1, child, path, b, edited, hc, hb, hid, he, rfl⟩

end

theorem editForest?_eq_some (root : Nat) (path : List Nat) (forest after : List Block)
    (result : ρ) :
    editForest? f root path forest = some (result, after) ↔
      ∃ tree edited, forest[root]? = some tree ∧
        editPath? f path tree = some (result, edited) ∧ after = forest.set root edited := by
  simp [editForest?, Option.bind_eq_some_iff, @eq_comm _ after]

theorem editRoots?_eq_none (forest : List Block) :
    Workspace.editRoots? id f forest = none ↔ ∀ b ∈ forest.flatMap preorder, b.id ≠ id := by
  induction forest with
  | nil => simp [Workspace.editRoots?]
  | cons root rest ih =>
    simp only [List.flatMap_cons, List.forall_mem_append, ← edit?_eq_none f id root, ← ih]
    cases hr : edit? id f root <;> simp [Workspace.editRoots?, hr]

/-- An edit by identity is an edit at the place of a block with the identity. -/
theorem exists_place_editRoots? (forest after : List Block) (result : ρ)
    (h : Workspace.editRoots? id f forest = some (result, after)) :
    ∃ (root : Nat) (path : List Nat) (b : Block), forest[root]?.bind (atPath? path) = some b ∧
      b.id = id ∧ editForest? f root path forest = some (result, after) := by
  simp only [editForest?_eq_some]
  induction forest generalizing after with
  | nil => simp [Workspace.editRoots?] at h
  | cons first rest ih =>
    cases hf : edit? id f first with
    | some changed =>
      simp only [Workspace.editRoots?, hf] at h
      cases h
      obtain ⟨path, b, hb, hid, he⟩ := exists_path_edit? f id first _ hf
      exact ⟨0, path, b, hb, hid, first, changed.2, rfl, he, rfl⟩
    | none =>
      simp only [Workspace.editRoots?, hf, Option.map_eq_some_iff] at h
      obtain ⟨⟨result, others⟩, hr, h⟩ := h
      cases h
      obtain ⟨root, path, b, hb, hid, tree, edited, ht, he, rfl⟩ := ih others hr
      exact ⟨root + 1, path, b, hb, hid, tree, edited, ht, he, rfl⟩

theorem id_editPath? (hf : ∀ b, (f b).2.id = b.id) (path : List Nat) (block after : Block)
    (result : ρ) (h : editPath? f path block = some (result, after)) : after.id = block.id := by
  cases path with
  | nil =>
    have he : f block = (result, after) := Option.some.inj h
    simpa [he] using hf block
  | cons index path =>
    obtain ⟨header, slots, child, edited, rfl, -, -, rfl⟩ :=
      editPath?_cons f index path block after result h
    rfl

/-- Away from the place of an edit that keeps identities, and above it, blocks keep their faces. -/
theorem face_editPath? (hf : ∀ b, (f b).2.id = b.id) (path other : List Nat)
    (block after : Block) (result : ρ) (h : editPath? f path block = some (result, after))
    (ho : ¬ path <+: other) :
    (atPath? other after).map face = (atPath? other block).map face := by
  induction path generalizing block after other with
  | nil => simp at ho
  | cons index path ih =>
    obtain ⟨header, slots, child, edited, rfl, hc, he, rfl⟩ :=
      editPath?_cons f index path block after result h
    obtain ⟨hi, hs⟩ := List.getElem?_eq_some_iff.mp hc
    cases other with
    | nil =>
      -- above the place only the slot on the path is written, with a block of the same identity
      have hid := id_editPath? f hf path child edited result he
      have hsame : (slots.map (Option.map Block.id)).set index (some edited.id) =
          slots.map (Option.map Block.id) := by
        apply List.ext_getElem?
        intro position
        by_cases hp : index = position
        · subst hp
          simp [hi, hid, hs]
        · simp [hp]
      simp [atPath?, face, List.map_set, hsame]
    | cons step other =>
      by_cases hstep : index = step
      · subst hstep
        have hbelow : ¬ path <+: other := by simpa using ho
        simpa [atPath?_cons, child?, Block.slots, hi, hs] using ih other child edited he hbelow
      · simp [atPath?_cons, child?, Block.slots, hstep]

/-- An edit that leaves the block at the place leaves the tree. -/
theorem editPath?_unchanged (path : List Nat) (block b after : Block) (result : ρ)
    (hb : atPath? path block = some b) (hf : (f b).2 = b)
    (h : editPath? f path block = some (result, after)) : after = block := by
  induction path generalizing block after with
  | nil =>
    cases hb
    have he : f b = (result, after) := Option.some.inj h
    simpa [he] using hf
  | cons index path ih =>
    obtain ⟨header, slots, child, edited, rfl, hc, he, rfl⟩ :=
      editPath?_cons f index path block after result h
    obtain ⟨hi, hs⟩ := List.getElem?_eq_some_iff.mp hc
    have hchild : atPath? path child = some b := by
      simpa [atPath?_cons, child?, Block.slots, hi, hs] using hb
    simp [ih child edited hchild he, ← hs]

end

theorem index_unique {α β : Type} (f : α → List β) (entries : List α)
    (hn : (entries.flatMap f).Nodup) (i j : Nat) (x y : α) (hx : entries[i]? = some x)
    (hy : entries[j]? = some y) (b : β) (hbx : b ∈ f x) (hby : b ∈ f y) : i = j := by
  obtain ⟨-, hp⟩ := List.nodup_flatMap.mp hn
  rw [List.pairwise_iff_getElem] at hp
  obtain ⟨hi, rfl⟩ := List.getElem?_eq_some_iff.mp hx
  obtain ⟨hj, rfl⟩ := List.getElem?_eq_some_iff.mp hy
  rcases Nat.lt_trichotomy i j with h | h | h
  · exact absurd hby (hp i j hi hj h hbx)
  · exact h
  · exact absurd hbx (hp j i hj hi h hby)

def ids (block : Block) : List BlockId := block.preorder.map Block.id

def slotIds (slot : Option Block) : List BlockId := slot.elim [] ids

theorem ids_eq (block : Block) : block.ids = block.id :: block.slots.flatMap slotIds := by
  have hs (slots : Slots) : (preorderSlots slots).map Block.id = slots.flatMap slotIds := by
    induction slots with
    | nil => rfl
    | cons slot rest ih => cases slot <;> simp [preorderSlots, slotIds, ids, ih]
  rw [ids, preorder_eq, List.map_cons, hs]

theorem id_mem_ids (path : List Nat) (block b : Block) (h : atPath? path block = some b) :
    b.id ∈ block.ids :=
  List.mem_map_of_mem ((mem_preorder_iff block b).mpr ⟨path, h⟩)

/-- The path to a block leads through a slot that has its identity. -/
theorem exists_slot_path (index : Nat) (path : List Nat) (block b : Block)
    (h : atPath? (index :: path) block = some b) :
    ∃ child, block.slots[index]? = some (some child) ∧ atPath? path child = some b ∧
      b.id ∈ slotIds (some child) := by
  rw [atPath?_cons, Option.bind_eq_some_iff] at h
  obtain ⟨child, hc, hb⟩ := h
  exact ⟨child, (child?_eq_some_iff block index child).mp hc, hb, id_mem_ids path child b hb⟩

theorem id_ne_of_below (index : Nat) (path : List Nat) (block b : Block) (hn : block.ids.Nodup)
    (h : atPath? (index :: path) block = some b) : b.id ≠ block.id := by
  obtain ⟨child, hs, -, hm⟩ := exists_slot_path index path block b h
  rw [ids_eq, List.nodup_cons] at hn
  intro hid
  exact hn.1 (hid ▸ List.mem_flatMap.mpr ⟨some child, List.mem_of_getElem? hs, hm⟩)

/-- Where all identities differ, one identity stands at one place. -/
theorem path_unique (path other : List Nat) (block b c : Block) (hn : block.ids.Nodup)
    (hb : atPath? path block = some b) (hc : atPath? other block = some c) (h : b.id = c.id) :
    path = other := by
  induction path generalizing block other with
  | nil =>
    cases other with
    | nil => rfl
    | cons index other =>
      cases hb
      exact absurd h.symm (id_ne_of_below index other b c hn hc)
  | cons index path ih =>
    cases other with
    | nil =>
      cases hc
      exact absurd h (id_ne_of_below index path c b hn hb)
    | cons step other =>
      rw [ids_eq, List.nodup_cons] at hn
      obtain ⟨child, hs, hb, hm⟩ := exists_slot_path index path block b hb
      obtain ⟨second, hs', hc, hm'⟩ := exists_slot_path step other block c hc
      -- only one slot has the identity, so both paths go through the same child
      have hi : index = step :=
        index_unique slotIds block.slots hn.2 index step _ _ hs hs' b.id hm (h ▸ hm')
      subst hi
      have hsame : child = second := by simpa [hs] using hs'
      subst hsame
      have hchild := (List.nodup_flatMap.mp hn.2).1 _ (List.mem_of_getElem? hs)
      rw [ih other child hchild hb hc]

/-- Where all identities of a forest differ, one identity stands at one place. -/
theorem place_unique (forest : List Block) (hn : (forest.flatMap ids).Nodup) (root other : Nat)
    (path way : List Nat) (b c : Block) (hb : forest[root]?.bind (atPath? path) = some b)
    (hc : forest[other]?.bind (atPath? way) = some c) (h : b.id = c.id) :
    root = other ∧ path = way := by
  obtain ⟨tree, ht, hb⟩ := Option.bind_eq_some_iff.mp hb
  obtain ⟨second, hs, hc⟩ := Option.bind_eq_some_iff.mp hc
  have hroot : root = other :=
    index_unique ids forest hn root other tree second ht hs b.id (id_mem_ids path tree b hb)
      (h ▸ id_mem_ids way second c hc)
  subst hroot
  have hsame : tree = second := by simpa [ht] using hs
  subst hsame
  have htree := (List.nodup_flatMap.mp hn).1 tree (List.mem_of_getElem? ht)
  exact ⟨rfl, path_unique path way tree b c htree hb hc h⟩

/-- Where all identities of a forest differ, an edit by identity is the edit at the place of the
block that has it. -/
theorem editRoots?_at {ρ : Type} (f : Block → ρ × Block) (forest : List Block)
    (hn : (forest.flatMap ids).Nodup) (root : Nat) (path : List Nat) (b : Block)
    (hb : forest[root]?.bind (atPath? path) = some b) :
    ∃ after, Workspace.editRoots? b.id f forest = some ((f b).1, after) ∧
      editForest? f root path forest = some ((f b).1, after) := by
  cases he : Workspace.editRoots? b.id f forest with
  | none =>
    rw [editRoots?_eq_none] at he
    obtain ⟨tree, ht, hb⟩ := Option.bind_eq_some_iff.mp hb
    have hm : b ∈ forest.flatMap preorder := List.mem_flatMap.mpr
      ⟨tree, List.mem_of_getElem? ht, (mem_preorder_iff tree b).mpr ⟨path, hb⟩⟩
    exact absurd rfl (he b hm)
  | some found =>
    obtain ⟨other, way, c, hc, hid, hf⟩ := exists_place_editRoots? f b.id forest found.2 found.1 he
    obtain ⟨rfl, rfl⟩ := place_unique forest hn root other path way b c hb hc hid.symm
    have hsame : b = c := by simpa [hb] using hc
    obtain ⟨tree, edited, ht, hp, -⟩ := (editForest?_eq_some f root path forest _ _).mp hf
    have hat : atPath? path tree = some b := by simpa [ht] using hb
    obtain ⟨after, ha⟩ := exists_editPath? f path tree b hat
    have hresult : found.1 = (f b).1 := by
      rw [hp] at ha
      simpa using congrArg (Option.map Prod.fst) ha
    exact ⟨found.2, by rw [← hresult], by rw [← hresult]; exact hf⟩

end QueryBlocks.Block
