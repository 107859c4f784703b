import QueryBlocks.Proofs.Block.Places

/-!
# Edits at a place

An edit at the end of a path changes the block there and the slots above it, and nothing
else: what holds of every header of a tree, and what a change of all headers makes of the
tree, can be followed through the edit.
-/

set_option autoImplicit false

namespace QueryBlocks.Block

def Everywhere (p : Bool → Header → Prop) (block : Block) : Prop :=
  ∀ b ∈ block.preorder, p b.isObject b.header

theorem everywhere_object (p : Bool → Header → Prop) (header : Header)
    (slots : List (Option Block)) :
    Everywhere p (.object header slots) ↔
      p true header ∧ ∀ child, some child ∈ slots → Everywhere p child := by
  constructor
  · intro h
    refine ⟨h (.object header slots) List.mem_cons_self, fun child hc b hb => h b ?_⟩
    exact List.mem_cons_of_mem _ ((mem_preorderSlots b slots).mpr ⟨child, hc, hb⟩)
  · rintro ⟨hp, hs⟩ b hb
    rw [preorder, List.mem_cons, mem_preorderSlots] at hb
    rcases hb with rfl | ⟨child, hc, hb⟩
    · exact hp
    · exact hs child hc b hb

theorem everywhere_atPath? (p : Bool → Header → Prop) (path : List Nat) (block b : Block)
    (h : Everywhere p block) (hb : atPath? path block = some b) : Everywhere p b :=
  fun x hx => h x (preorder_atPath? path block b hb hx)

/-- An edit below a block goes through one of its filled slots. -/
theorem editPath?_cons {ρ : Type} (f : Block → ρ × Block) (index : Nat) (path : List Nat)
    (block after : Block) (result : ρ)
    (h : editPath? f (index :: path) block = some (result, after)) :
    ∃ header slots child edited, block = .object header slots ∧
      slots[index]? = some (some child) ∧ editPath? f path child = some (result, edited) ∧
      after = .object header (slots.set index (some edited)) := by
  rw [editPath?, Option.bind_eq_bind, Option.bind_eq_some_iff] at h
  obtain ⟨child, hc, h⟩ := h
  rw [Option.bind_eq_bind, Option.bind_eq_some_iff] at h
  obtain ⟨⟨r, edited⟩, he, h⟩ := h
  rw [child?_eq_some_iff] at hc
  cases block with
  | scalar header => cases hc
  | object header slots =>
    cases h
    exact ⟨header, slots, child, edited, rfl, hc, he, rfl⟩

/-- An edit can be made wherever there is a block. -/
theorem exists_editPath? {ρ : Type} (f : Block → ρ × Block) (path : List Nat) (block b : Block)
    (h : atPath? path block = some b) :
    ∃ after, editPath? f path block = some ((f b).1, after) := by
  induction path generalizing block with
  | nil =>
    cases h
    exact ⟨(f b).2, rfl⟩
  | cons index path ih =>
    rw [atPath?_cons, Option.bind_eq_some_iff] at h
    obtain ⟨child, hc, hb⟩ := h
    obtain ⟨edited, he⟩ := ih child hb
    rw [editPath?, hc, Option.bind_eq_bind, Option.bind_some, he]
    exact ⟨_, rfl⟩

theorem atPath?_editPath? {ρ : Type} (f : Block → ρ × Block) (path : List Nat)
    (block b after : Block) (result : ρ) (h : atPath? path block = some b)
    (he : editPath? f path block = some (result, after)) : atPath? path after = some (f b).2 := by
  induction path generalizing block after with
  | nil =>
    cases h
    exact congrArg (fun found => some found.2) (Option.some.inj he).symm
  | cons index path ih =>
    obtain ⟨header, slots, child, edited, rfl, hc, hchild, rfl⟩ :=
      editPath?_cons f index path block after result he
    have hl : index < slots.length := (List.getElem?_eq_some_iff.mp hc).choose
    have hbefore : (Block.object header slots).child? index = some child :=
      (child?_eq_some_iff _ index child).mpr hc
    have hafter : (Block.object header (slots.set index (some edited))).child? index =
        some edited := (child?_eq_some_iff _ index edited).mpr (List.getElem?_set_self hl)
    rw [atPath?_cons, hbefore] at h
    rw [atPath?_cons, hafter]
    exact ih child edited h hchild

theorem everywhere_editPath? {ρ : Type} (p : Bool → Header → Prop) (f : Block → ρ × Block)
    (path : List Nat) (block after : Block) (result : ρ) (hb : Everywhere p block)
    (hf : ∀ b, atPath? path block = some b → Everywhere p (f b).2)
    (h : editPath? f path block = some (result, after)) : Everywhere p after := by
  induction path generalizing block after with
  | nil =>
    have he : f block = (result, after) := Option.some.inj h
    have hs := hf block rfl
    rw [he] at hs
    exact hs
  | cons index path ih =>
    obtain ⟨header, slots, child, edited, rfl, hc, he, rfl⟩ :=
      editPath?_cons f index path block after result h
    obtain ⟨hp, hs⟩ := (everywhere_object p header slots).mp hb
    have hchild : (Block.object header slots).child? index = some child :=
      (child?_eq_some_iff _ index child).mpr hc
    have hedited : Everywhere p edited := by
      refine ih child edited (hs child (List.mem_of_getElem? hc)) (fun b hb => hf b ?_) he
      rw [atPath?_cons, hchild]
      exact hb
    refine (everywhere_object p header _).mpr ⟨hp, fun other ho => ?_⟩
    rcases List.mem_or_eq_of_mem_set ho with ho | ho
    · exact hs other ho
    · cases ho
      exact hedited

theorem mapHeaders_edited {ρ : Type} (g : Bool → Header → Header) (f : Block → ρ × Block)
    (hf : ∀ b, (f b).2.mapHeaders g = b.mapHeaders g) (block after : Block) (result : ρ)
    (h : some (f block) = some (result, after)) : after.mapHeaders g = block.mapHeaders g := by
  rw [← hf block, Option.some.inj h]

/-- An edit that a change of all headers does not see where it is made is not seen in the whole
tree. -/
theorem mapHeaders_editPath? {ρ : Type} (g : Bool → Header → Header) (f : Block → ρ × Block)
    (hf : ∀ b, (f b).2.mapHeaders g = b.mapHeaders g) (path : List Nat) (block after : Block)
    (result : ρ) (h : editPath? f path block = some (result, after)) :
    after.mapHeaders g = block.mapHeaders g := by
  induction path generalizing block after with
  | nil => exact mapHeaders_edited g f hf block after result h
  | cons index path ih =>
    obtain ⟨header, slots, child, edited, rfl, hc, he, rfl⟩ :=
      editPath?_cons f index path block after result h
    rw [mapHeaders, mapHeaders, mapHeadersSlots_eq_map, mapHeadersSlots_eq_map, List.map_set,
      Option.map_some, ih child edited he]
    have hi : (slots.map (Option.map (mapHeaders g)))[index]? =
        some (some (child.mapHeaders g)) := by
      rw [List.getElem?_map, hc]
      rfl
    obtain ⟨hl, hi⟩ := List.getElem?_eq_some_iff.mp hi
    rw [← hi, List.set_getElem_self]

mutual

theorem mapHeaders_edit? {ρ : Type} (g : Bool → Header → Header) (f : Block → ρ × Block)
    (hf : ∀ b, (f b).2.mapHeaders g = b.mapHeaders g) (id : BlockId) (block after : Block)
    (result : ρ) (h : edit? id f block = some (result, after)) :
    after.mapHeaders g = block.mapHeaders g := by
  match block with
  | .scalar header =>
    rw [edit?] at h
    split at h
    · exact mapHeaders_edited g f hf (.scalar header) after result h
    · cases h
  | .object header slots =>
    rw [edit?] at h
    split at h
    · exact mapHeaders_edited g f hf (.object header slots) after result h
    · obtain ⟨⟨r, edited⟩, he, h⟩ := Option.map_eq_some_iff.mp h
      cases h
      rw [mapHeaders, mapHeaders, mapHeadersSlots_editSlots? g f hf id slots edited result he]

theorem mapHeadersSlots_editSlots? {ρ : Type} (g : Bool → Header → Header)
    (f : Block → ρ × Block) (hf : ∀ b, (f b).2.mapHeaders g = b.mapHeaders g) (id : BlockId)
    (slots after : List (Option Block)) (result : ρ)
    (h : editSlots? id f slots = some (result, after)) :
    mapHeadersSlots g after = mapHeadersSlots g slots := by
  match slots with
  | [] => cases h
  | none :: rest =>
    obtain ⟨⟨r, edited⟩, he, h⟩ := Option.map_eq_some_iff.mp h
    cases h
    rw [mapHeadersSlots, mapHeadersSlots,
      mapHeadersSlots_editSlots? g f hf id rest edited result he]
  | some child :: rest =>
    rw [editSlots?] at h
    cases hc : edit? id f child with
    | some found =>
      rw [hc] at h
      cases h
      rw [mapHeadersSlots, mapHeadersSlots, mapHeaders_edit? g f hf id child found.2 found.1 hc]
    | none =>
      rw [hc] at h
      obtain ⟨⟨r, edited⟩, he, h⟩ := Option.map_eq_some_iff.mp h
      cases h
      rw [mapHeadersSlots, mapHeadersSlots,
        mapHeadersSlots_editSlots? g f hf id rest edited result he]

end

end QueryBlocks.Block
