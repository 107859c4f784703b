import Mathlib.Data.List.Flatten
import Mathlib.Data.List.Perm.Basic
import Mathlib.Data.List.Perm.Subperm
import Mathlib.Data.List.ReduceOption
import QueryBlocks.Proofs.Block.Edits

/-!
# Marks

The mark of a block is its shape and its header without the parameters. Apart from their order,
an edit of one block changes the marks of a forest as it changes those of the block, and an edit
of slots moves marks or loses them but makes none.
-/

set_option autoImplicit false

namespace QueryBlocks

abbrev Mark := Bool × Header

namespace Block

def mark (block : Block) : Mark := (block.isObject, { block.header with parameters := [] })

def marks (block : Block) : List Mark := block.preorder.map mark

def forestMarks (forest : List Block) : List Mark := forest.flatMap marks

theorem preorderSlots_eq (slots : Slots) :
    preorderSlots slots = slots.reduceOption.flatMap preorder := by
  induction slots with
  | nil => rfl
  | cons slot rest ih =>
    cases slot with
    | none => exact ih
    | some child =>
      rw [preorderSlots, ih, List.reduceOption_cons_of_some, List.flatMap_cons]

theorem forestMarks_eq (forest : List Block) :
    forestMarks forest = (forest.flatMap preorder).map mark := by
  rw [List.map_flatMap]
  rfl

theorem marks_eq (block : Block) :
    block.marks = block.mark :: forestMarks block.slots.reduceOption := by
  rw [marks, preorder_eq, List.map_cons, preorderSlots_eq, forestMarks_eq]

theorem forestMarks_append (xs ys : List Block) :
    forestMarks (xs ++ ys) = forestMarks xs ++ forestMarks ys :=
  List.flatMap_append

theorem forestMarks_perm (xs ys : List Block) (h : xs.Perm ys) :
    (forestMarks xs).Perm (forestMarks ys) :=
  h.flatMap fun block _ => List.Perm.refl block.marks

theorem forestMarks_subperm (xs ys : List Block) (h : xs.Subperm ys) :
    (forestMarks xs).Subperm (forestMarks ys) := by
  obtain ⟨zs, hp, hs⟩ := h
  exact ⟨forestMarks zs, forestMarks_perm zs xs hp, hs.flatMap marks⟩

def editForest? {ρ : Type} (f : Block → ρ × Block) (root : Nat) (path : List Nat)
    (forest : List Block) : Option (ρ × List Block) := do
  let tree ← forest[root]?
  let (result, tree) ← editPath? f path tree
  return (result, forest.set root tree)

def Edited {ρ : Type} (f : Block → ρ × Block) (result : ρ) (before after : List Mark) : Prop :=
  ∃ b rest, before.Perm (b.marks ++ rest) ∧ after.Perm ((f b).2.marks ++ rest) ∧
    result = (f b).1

section

variable {ρ : Type} (f : Block → ρ × Block)

theorem edited_self (block after : Block) (result : ρ) (h : f block = (result, after)) :
    Edited f result block.marks after.marks := by
  refine ⟨block, [], ?_, ?_, ?_⟩
  · rw [List.append_nil]
  · rw [List.append_nil, h]
  · rw [h]

theorem edited_among (result : ρ) (before after whole changed more : List Mark)
    (h : Edited f result before after) (hb : whole.Perm (before ++ more))
    (ha : changed.Perm (after ++ more)) : Edited f result whole changed := by
  obtain ⟨b, rest, hbefore, hafter, hr⟩ := h
  refine ⟨b, rest ++ more, ?_, ?_, hr⟩
  · rw [← List.append_assoc]
    exact hb.trans (hbefore.append_right more)
  · rw [← List.append_assoc]
    exact ha.trans (hafter.append_right more)

theorem perm_eraseIdx {α : Type} (entries : List α) (index : Nat) (entry : α)
    (h : entries[index]? = some entry) : entries.Perm (entry :: entries.eraseIdx index) := by
  obtain ⟨hi, rfl⟩ := List.getElem?_eq_some_iff.mp h
  exact (List.getElem_cons_eraseIdx_perm hi).symm

theorem set_perm {α : Type} (entries : List α) (index : Nat) (entry changed : α)
    (h : entries[index]? = some entry) :
    (entries.set index changed).Perm (changed :: entries.eraseIdx index) := by
  obtain ⟨hi, -⟩ := List.getElem?_eq_some_iff.mp h
  exact List.set_perm_cons_eraseIdx hi changed

/-- The marks of a block, those of one of its children in front. -/
theorem marks_perm (header : Header) (slots others : Slots) (child : Block)
    (h : slots.Perm (some child :: others)) :
    (Block.object header slots).marks.Perm
      (child.marks ++ (Block.object header others).marks) := by
  have hf : (forestMarks slots.reduceOption).Perm
      (child.marks ++ forestMarks others.reduceOption) :=
    forestMarks_perm _ _ (h.filterMap fun slot => slot)
  rw [marks_eq (.object header slots), marks_eq (.object header others)]
  exact (hf.cons _).trans List.perm_middle.symm

theorem edited_editPath? (path : List Nat) (block after : Block) (result : ρ)
    (h : editPath? f path block = some (result, after)) :
    Edited f result block.marks after.marks := by
  induction path generalizing block after with
  | nil => exact edited_self f block after result (Option.some.inj h)
  | cons index path ih =>
    obtain ⟨header, slots, child, edited, rfl, hc, he, rfl⟩ :=
      editPath?_cons f index path block after result h
    exact edited_among f result child.marks edited.marks _ _ _ (ih child edited he)
      (marks_perm header slots _ child (perm_eraseIdx slots index _ hc))
      (marks_perm header _ _ edited (set_perm slots index _ _ hc))

mutual

theorem edited_edit? (id : BlockId) (block after : Block) (result : ρ)
    (h : edit? id f block = some (result, after)) :
    Edited f result block.marks after.marks := by
  match block with
  | .scalar header =>
    rw [edit?] at h
    split at h
    · exact edited_self f (.scalar header) after result (Option.some.inj h)
    · cases h
  | .object header slots =>
    rw [edit?] at h
    split at h
    · exact edited_self f (.object header slots) after result (Option.some.inj h)
    · obtain ⟨⟨r, edited⟩, he, h⟩ := Option.map_eq_some_iff.mp h
      cases h
      have hown (slots : Slots) : (Block.object header slots).marks.Perm
          (forestMarks slots.reduceOption ++ [(Block.object header []).mark]) := by
        rw [marks_eq]
        exact (List.perm_append_singleton _ _).symm
      exact edited_among f result _ _ _ _ _ (edited_editSlots? id slots edited result he)
        (hown slots) (hown edited)

theorem edited_editSlots? (id : BlockId) (slots after : Slots) (result : ρ)
    (h : editSlots? id f slots = some (result, after)) :
    Edited f result (forestMarks slots.reduceOption) (forestMarks after.reduceOption) := by
  match slots with
  | [] => cases h
  | none :: rest =>
    obtain ⟨⟨r, edited⟩, he, h⟩ := Option.map_eq_some_iff.mp h
    cases h
    exact edited_editSlots? id rest edited result he
  | some child :: rest =>
    rw [editSlots?] at h
    cases hc : edit? id f child with
    | some found =>
      rw [hc] at h
      cases h
      exact edited_among f _ _ _ _ _ (forestMarks rest.reduceOption)
        (edited_edit? id child found.2 found.1 hc) (List.Perm.refl _) (List.Perm.refl _)
    | none =>
      rw [hc] at h
      obtain ⟨⟨r, edited⟩, he, h⟩ := Option.map_eq_some_iff.mp h
      cases h
      exact edited_among f result _ _ _ _ child.marks (edited_editSlots? id rest edited result he)
        List.perm_append_comm List.perm_append_comm

end

theorem edited_editForest? (root : Nat) (path : List Nat) (forest after : List Block) (result : ρ)
    (h : editForest? f root path forest = some (result, after)) :
    Edited f result (forestMarks forest) (forestMarks after) := by
  rw [editForest?, Option.bind_eq_bind, Option.bind_eq_some_iff] at h
  obtain ⟨tree, ht, h⟩ := h
  rw [Option.bind_eq_bind, Option.bind_eq_some_iff] at h
  obtain ⟨⟨r, edited⟩, he, h⟩ := h
  cases h
  exact edited_among f result tree.marks edited.marks _ _
    (forestMarks (forest.eraseIdx root)) (edited_editPath? f path tree edited result he)
    (forestMarks_perm _ _ (perm_eraseIdx forest root tree ht))
    (forestMarks_perm _ _ (set_perm forest root tree edited ht))

theorem edited_editRoots? (id : BlockId) (forest after : List Block) (result : ρ)
    (h : Workspace.editRoots? id f forest = some (result, after)) :
    Edited f result (forestMarks forest) (forestMarks after) := by
  induction forest generalizing after with
  | nil => cases h
  | cons root rest ih =>
    rw [Workspace.editRoots?] at h
    cases he : root.edit? id f with
    | some found =>
      rw [he] at h
      cases h
      exact edited_among f _ _ _ _ _ (forestMarks rest)
        (edited_edit? f id root found.2 found.1 he) (List.Perm.refl _) (List.Perm.refl _)
    | none =>
      rw [he] at h
      obtain ⟨⟨r, edited⟩, hr, h⟩ := Option.map_eq_some_iff.mp h
      cases h
      exact edited_among f result _ _ _ _ root.marks (ih edited hr)
        List.perm_append_comm List.perm_append_comm

end

def Moves (taken : List Block) (before : Block) (released : List Block) (after : Block) : Prop :=
  (forestMarks released ++ after.marks).Subperm (forestMarks taken ++ before.marks)

theorem moves_of_mark (taken : List Block) (before after : Block) (released : List Block)
    (hm : after.mark = before.mark)
    (hs : (released ++ after.slots.reduceOption).Subperm (taken ++ before.slots.reduceOption)) :
    Moves taken before released after := by
  have hbelow := forestMarks_subperm _ _ hs
  rw [forestMarks_append, forestMarks_append] at hbelow
  rw [Moves, marks_eq, marks_eq, hm]
  -- the mark of the block itself goes to the front on both sides
  have hall := (List.subperm_cons before.mark).mpr hbelow
  exact (List.perm_middle.subperm.trans hall).trans List.perm_middle.symm.subperm

theorem moves_refused (taken : List Block) (block : Block) : Moves taken block [] block := by
  apply moves_of_mark taken block block [] rfl
  exact (List.sublist_append_right taken _).subperm

/-- An edit of one block of a forest that makes no marks there makes none in the forest. -/
theorem subperm_edited (taken : List Block) (f : Block → List Block × Block)
    (hf : ∀ block, Moves taken block (f block).1 (f block).2) (released : List Block)
    (before after : List Mark) (h : Edited f released before after) :
    (forestMarks released ++ after).Subperm (forestMarks taken ++ before) := by
  obtain ⟨block, rest, hb, ha, rfl⟩ := h
  have hm : (forestMarks (f block).1 ++ (f block).2.marks ++ rest).Subperm
      (forestMarks taken ++ block.marks ++ rest) := (List.subperm_append_right rest).mpr (hf block)
  rw [List.append_assoc, List.append_assoc] at hm
  have hafter : (forestMarks (f block).1 ++ after).Perm
      (forestMarks (f block).1 ++ ((f block).2.marks ++ rest)) := ha.append_left _
  have hbefore : (forestMarks taken ++ (block.marks ++ rest)).Perm
      (forestMarks taken ++ before) := hb.symm.append_left _
  exact (hafter.subperm.trans hm).trans hbefore.subperm

def tried {ρ : Type} (released : ρ → List Block) (edit : Block → Except SlotError (ρ × Block))
    (block : Block) : List Block × Block :=
  match block.attempt edit with
  | (.ok result, after) => (released result, after)
  | (.error _, after) => ([], after)

theorem moves_tried {ρ : Type} (edit : Slots → Except SlotError (ρ × Slots))
    (taken : List Block) (released : ρ → List Block)
    (h : ∀ slots result edited, edit slots = .ok (result, edited) →
      (released result ++ edited.reduceOption).Subperm (taken ++ slots.reduceOption))
    (block : Block) :
    Moves taken block (tried released (withSlots edit) block).1
      (tried released (withSlots edit) block).2 := by
  cases block with
  | scalar header => exact moves_refused taken (.scalar header)
  | object header slots =>
    cases he : edit slots with
    | error cause =>
      have ha : tried released (withSlots edit) (.object header slots) =
          ([], .object header slots) := by
        rw [tried, attempt, withSlots, he]
        rfl
      rw [ha]
      exact moves_refused taken (.object header slots)
    | ok edited =>
      have ha : tried released (withSlots edit) (.object header slots) =
          (released edited.1, .object header edited.2) := by
        rw [tried, attempt, withSlots, he]
        rfl
      rw [ha]
      exact moves_of_mark taken (.object header slots) (.object header edited.2)
        (released edited.1) rfl (h slots edited.1 edited.2 he)

inductive Edit where
  | bind (index : Nat) (value : Option BoundValue)
  | bindNamed (name : String) (value : Option BoundValue)
  | addSlot (index : Nat)
  | removeSlot (index : Nat)
  | setSlotCount (count : Nat)

inductive Placing where
  | fill (index : Nat)
  | push

def Edit.apply : Edit → Block → List Block × Block
  | .bind index value, block => ([], (block.bindAt? index value).getD block)
  | .bindNamed name value, block => ([], (block.bindNamed? name value).getD block)
  | .addSlot index, block => tried (fun _ => []) (fun b => b.addSlot index) block
  | .removeSlot index, block => tried Option.toList (fun b => b.removeSlot index) block
  | .setSlotCount count, block => tried (fun _ => []) (fun b => b.setSlotCount count) block

def Placing.apply (tree : Block) : Placing → Block → List Block × Block
  | .fill index, block => tried Option.toList (fun b => b.fillSlot index tree) block
  | .push, block => tried (fun _ => []) (fun b => b.pushChild tree) block

theorem moves_mapHeader (f : Header → Header) (block : Block)
    (hf : ∀ header : Header,
      ({ f header with parameters := [] } : Header) = { header with parameters := [] }) :
    Moves [] block [] (block.mapHeader f) := by
  cases block with
  | scalar header =>
    exact moves_of_mark [] (.scalar header) _ [] (Prod.ext rfl (hf header)) (List.Subperm.refl _)
  | object header slots =>
    exact moves_of_mark [] (.object header slots) _ [] (Prod.ext rfl (hf header))
      (List.Subperm.refl _)

theorem moves_bindAt? (index : Nat) (value : Option BoundValue) (block : Block) :
    Moves [] block [] ((block.bindAt? index value).getD block) := by
  rw [bindAt?]
  split
  · exact moves_mapHeader _ block fun _ => rfl
  · exact moves_refused [] block

theorem reduceOption_insertIdx (slots : Slots) (index : Nat) (h : index ≤ slots.length) :
    (slots.insertIdx index none).reduceOption.Perm slots.reduceOption :=
  (List.perm_insertIdx none slots h).filterMap fun slot => slot

theorem reduceOption_eraseIdx (slots : Slots) (index : Nat) (slot : Option Block)
    (h : slots[index]? = some slot) :
    (slot.toList ++ (slots.eraseIdx index).reduceOption).Perm slots.reduceOption := by
  have hp := (perm_eraseIdx slots index slot h).symm.filterMap fun slot => slot
  cases slot with
  | none => exact hp
  | some child => exact hp

theorem reduceOption_set (slots : Slots) (index : Nat) (slot : Option Block) (child : Block)
    (h : slots[index]? = some slot) :
    (slot.toList ++ (slots.set index (some child)).reduceOption).Perm
      (child :: slots.reduceOption) := by
  have hs : (slots.set index (some child)).reduceOption.Perm
      (child :: (slots.eraseIdx index).reduceOption) :=
    (set_perm slots index slot (some child) h).filterMap fun slot => slot
  have hfront : (slot.toList ++ (slots.set index (some child)).reduceOption).Perm
      (child :: (slot.toList ++ (slots.eraseIdx index).reduceOption)) :=
    (hs.append_left _).trans List.perm_middle
  exact hfront.trans ((reduceOption_eraseIdx slots index slot h).cons child)

theorem reduceOption_resize (slots : Slots) (count more : Nat) :
    (slots.take count ++ List.replicate more none).reduceOption.Sublist slots.reduceOption := by
  rw [List.reduceOption_append, List.reduceOption_replicate_none, List.append_nil]
  exact (List.take_sublist count slots).filterMap _

theorem moves_edit (edit : Edit) (block : Block) :
    Moves [] block (edit.apply block).1 (edit.apply block).2 := by
  cases edit with
  | bind index value => exact moves_bindAt? index value block
  | bindNamed name value =>
    rw [Edit.apply, bindNamed?]
    cases block.header.parameters.findIdx? fun p => p.name == name with
    | none => exact moves_refused [] block
    | some index => exact moves_bindAt? index value block
  | addSlot index =>
    refine moves_tried _ [] (fun _ => []) ?_ block
    intro slots result edited h
    split at h
    · next hi =>
      cases h
      exact (reduceOption_insertIdx slots index hi).subperm
    · cases h
  | removeSlot index =>
    refine moves_tried _ [] Option.toList ?_ block
    intro slots result edited h
    cases hs : slots[index]? with
    | none =>
      simp only [hs] at h
      cases h
    | some slot =>
      simp only [hs] at h
      cases h
      exact (reduceOption_eraseIdx slots index result hs).subperm
  | setSlotCount count =>
    refine moves_tried _ [] (fun _ => []) ?_ block
    intro slots result edited h
    cases h
    exact (reduceOption_resize slots count _).subperm

theorem moves_placing (tree : Block) (placing : Placing) (block : Block) :
    Moves [tree] block (placing.apply tree block).1 (placing.apply tree block).2 := by
  cases placing with
  | fill index =>
    refine moves_tried _ [tree] Option.toList ?_ block
    intro slots result edited h
    cases hs : slots[index]? with
    | none =>
      simp only [hs] at h
      cases h
    | some slot =>
      simp only [hs] at h
      cases h
      exact (reduceOption_set slots index result tree hs).subperm
  | push =>
    refine moves_tried _ [tree] (fun _ => []) ?_ block
    intro slots result edited h
    cases h
    rw [List.reduceOption_append]
    exact (List.perm_append_singleton tree slots.reduceOption).subperm

end Block

end QueryBlocks
