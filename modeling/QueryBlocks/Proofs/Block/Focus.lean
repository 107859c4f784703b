import QueryBlocks.Proofs.Block.Marks

/-!
# Where an edit goes

Which block an edit is made of does not depend on the edit: it is found first, and what the edit
makes of it is put back in its place.
-/

set_option autoImplicit false

namespace QueryBlocks.Block

/-- A way to edit one block of something larger: there is none, or there is a block to which every
edit is applied and a way to put the edited block back. -/
def Focused {σ : Type} (edit : (ρ : Type) → (Block → ρ × Block) → Option (ρ × σ)) : Prop :=
  (∀ ρ f, edit ρ f = none) ∨
    ∃ (block : Block) (put : Block → σ), ∀ ρ f, edit ρ f = some ((f block).1, put (f block).2)

section

variable {σ τ : Type}

/-- An edit of a part that is put back into the whole. -/
theorem focused_map (part : (ρ : Type) → (Block → ρ × Block) → Option (ρ × σ))
    (whole : (ρ : Type) → (Block → ρ × Block) → Option (ρ × τ)) (put : σ → τ)
    (hw : ∀ ρ f, whole ρ f = (part ρ f).map fun found => (found.1, put found.2))
    (h : Focused part) : Focused whole := by
  rcases h with h | ⟨block, place, h⟩
  · exact .inl fun ρ f => by simp [hw, h]
  · exact .inr ⟨block, put ∘ place, fun ρ f => by simp [hw, h]⟩

end

theorem focused_editPath? (path : List Nat) (block : Block) :
    Focused fun _ f => editPath? f path block := by
  induction path generalizing block with
  | nil => exact .inr ⟨block, fun edited => edited, fun ρ f => rfl⟩
  | cons index path ih =>
    cases hc : block.child? index with
    | none => exact .inl fun ρ f => by simp [editPath?, hc]
    | some child =>
      cases block with
      | scalar header => simp [child?, Block.slots] at hc
      | object header slots =>
        apply focused_map _ _ (fun edited => .object header (slots.set index (some edited))) _
          (ih child)
        intro ρ f
        cases he : editPath? f path child with
        | none => simp [editPath?, hc, he]
        | some found => simp [editPath?, hc, he]

theorem focused_editForest? (root : Nat) (path : List Nat) (forest : List Block) :
    Focused fun _ f => editForest? f root path forest := by
  cases ht : forest[root]? with
  | none => exact .inl fun ρ f => by simp [editForest?, ht]
  | some tree =>
    apply focused_map _ _ (fun edited => forest.set root edited) _ (focused_editPath? path tree)
    intro ρ f
    cases he : editPath? f path tree with
    | none => simp [editForest?, ht, he]
    | some found => simp [editForest?, ht, he]

mutual

theorem focused_edit? (id : BlockId) (block : Block) : Focused fun _ f => edit? id f block := by
  match block with
  | .scalar header =>
    by_cases h : header.id = id
    · exact .inr ⟨.scalar header, fun edited => edited, fun ρ f => by simp [edit?, h]⟩
    · exact .inl fun ρ f => by simp [edit?, h]
  | .object header slots =>
    by_cases h : header.id = id
    · exact .inr ⟨.object header slots, fun edited => edited, fun ρ f => by simp [edit?, h]⟩
    · apply focused_map _ _ (fun edited => .object header edited) _ (focused_editSlots? id slots)
      intro ρ f
      simp [edit?, h]

theorem focused_editSlots? (id : BlockId) (slots : Slots) :
    Focused fun _ f => editSlots? id f slots := by
  match slots with
  | [] => exact .inl fun ρ f => rfl
  | none :: rest =>
    exact focused_map _ _ (fun edited => none :: edited) (fun ρ f => rfl)
      (focused_editSlots? id rest)
  | some child :: rest =>
    rcases focused_edit? id child with h | ⟨block, put, h⟩
    · apply focused_map _ _ (fun edited => some child :: edited) _ (focused_editSlots? id rest)
      intro ρ f
      simp [editSlots?, h]
    · exact .inr ⟨block, fun edited => some (put edited) :: rest,
        fun ρ f => by simp [editSlots?, h]⟩

end

theorem focused_editRoots? (id : BlockId) (forest : List Block) :
    Focused fun _ f => Workspace.editRoots? id f forest := by
  induction forest with
  | nil => exact .inl fun ρ f => rfl
  | cons root rest ih =>
    rcases focused_edit? id root with h | ⟨block, put, h⟩
    · apply focused_map _ _ (fun edited => root :: edited) _ ih
      intro ρ f
      simp [Workspace.editRoots?, h]
    · exact .inr ⟨block, fun edited => put edited :: rest,
        fun ρ f => by simp [Workspace.editRoots?, h]⟩

end QueryBlocks.Block
