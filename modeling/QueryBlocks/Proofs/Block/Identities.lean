import QueryBlocks.Proofs.Block.Locality
import QueryBlocks.Proofs.Block.Persistence
import QueryBlocks.Proofs.Block.Reading
import QueryBlocks.Proofs.Block.Slots

/-!
# Identities are used once

A computation makes blocks through the makers of single blocks only. So the blocks that are made in
a run, those included that the run throws away, have the numbers from the first one on, one after
the other. What a load returns has each of the numbers that were used at most once, whatever the
document does with the blocks.
-/

set_option autoImplicit false

namespace QueryBlocks

def numbers (start stop : Nat) : List BlockId :=
  (List.range' start (stop - start)).map BlockId.mk

/-- A computation and the blocks it makes: only the makers of a single block make any. -/
inductive Builds : {α : Type} → Numbering α → (Nat → List Block) → Prop where
  | pure {α : Type} (value : α) : Builds (pure value) fun _ => []
  | scalar (endpoint field typeName : String) :
    Builds (Block.newScalar endpoint field typeName) fun next =>
      [((Block.newScalar endpoint field typeName).run next).1]
  | object (endpoint field typeName : String) (slotCount : Nat) :
    Builds (Block.newObject endpoint field typeName slotCount) fun next =>
      [((Block.newObject endpoint field typeName slotCount).run next).1]
  | bind {α β : Type} (first : Numbering α) (thereafter : α → Numbering β)
      (made : Nat → List Block) (later : α → Nat → List Block) (hf : Builds first made)
      (ht : ∀ value, Builds (thereafter value) (later value)) :
    Builds (first >>= thereafter) fun next =>
      made next ++ later (first.run next).1 (first.run next).2

theorem numbers_self (start : Nat) : numbers start start = [] := by
  simp [numbers]

theorem numbers_succ (start : Nat) : numbers start (start + 1) = [{ number := start }] := by
  simp [numbers]

theorem numbers_append (start mid stop : Nat) (hs : start ≤ mid) (hm : mid ≤ stop) :
    numbers start mid ++ numbers mid stop = numbers start stop := by
  have hmid : mid = start + (mid - start) := by omega
  have hcount : mid - start + (stop - mid) = stop - start := by omega
  rw [numbers, numbers, numbers, ← List.map_append, ← hcount, ← List.range'_append_1, ← hmid]

theorem nodup_numbers (start stop : Nat) : (numbers start stop).Nodup := by
  apply List.Nodup.map _ List.nodup_range'
  intro a b h
  exact BlockId.mk.inj h

namespace Builds

/-- The blocks that a run makes have consecutive numbers, and the run ends with the next one. -/
theorem consecutive {α : Type} (m : Numbering α) (made : Nat → List Block) (h : Builds m made)
    (next : Nat) :
    next ≤ (m.run next).2 ∧ (made next).map Block.id = numbers next (m.run next).2 := by
  induction h generalizing next with
  | pure value => exact ⟨Nat.le_refl _, (numbers_self next).symm⟩
  | scalar endpoint field typeName => exact ⟨Nat.le_succ _, (numbers_succ next).symm⟩
  | object endpoint field typeName slotCount => exact ⟨Nat.le_succ _, (numbers_succ next).symm⟩
  | bind first thereafter made later _ _ hf ht =>
    obtain ⟨hmid, hfirst⟩ := hf next
    obtain ⟨hstop, hlater⟩ := ht (first.run next).1 (first.run next).2
    refine ⟨Nat.le_trans hmid hstop, ?_⟩
    rw [List.map_append, hfirst, hlater]
    exact numbers_append next _ _ hmid hstop

end Builds

def Constructs {α : Type} (m : Numbering α) : Prop := ∃ made, Builds m made

namespace Constructs

theorem pure {α : Type} (value : α) : Constructs (Pure.pure value) := ⟨_, .pure value⟩

theorem bind {α β : Type} (first : Numbering α) (thereafter : α → Numbering β)
    (hf : Constructs first) (ht : ∀ value, Constructs (thereafter value)) :
    Constructs (first >>= thereafter) := by
  obtain ⟨made, hf⟩ := hf
  choose later ht using ht
  exact ⟨_, .bind first thereafter made later hf ht⟩

theorem bindTry {ε α β : Type} (first : TryNumbering ε α) (thereafter : α → TryNumbering ε β)
    (hf : Constructs first.run) (ht : ∀ value, Constructs (thereafter value).run) :
    Constructs (first >>= thereafter).run := by
  change Constructs (first.run >>= ExceptT.bindCont thereafter)
  apply bind first.run _ hf
  intro result
  cases result with
  | ok value => exact ht value
  | error fault => exact pure _

theorem ofExcept {ε α : Type} (result : Except ε α) :
    Constructs (liftM result : TryNumbering ε α).run := pure result

theorem ofNumbering {ε α : Type} (m : Numbering α) (h : Constructs m) :
    Constructs (liftM m : TryNumbering ε α).run := by
  change Constructs (m >>= fun value => Pure.pure (Except.ok value))
  exact bind m _ h fun value => pure _

theorem run_le {α : Type} (m : Numbering α) (h : Constructs m) (next : Nat) :
    next ≤ (m.run next).2 := by
  obtain ⟨made, h⟩ := h
  exact (h.consecutive m made next).1

end Constructs

namespace Block

theorem constructs_newScalar (endpoint field typeName : String) :
    Constructs (newScalar endpoint field typeName) := ⟨_, .scalar endpoint field typeName⟩

theorem constructs_newObject (endpoint field typeName : String) (slotCount : Nat) :
    Constructs (newObject endpoint field typeName slotCount) :=
  ⟨_, .object endpoint field typeName slotCount⟩

theorem constructs_ofTemplate (template : Template) : Constructs (ofTemplate template) := by
  unfold ofTemplate
  split
  · exact .bind _ _ (constructs_newObject _ _ _ _) fun block => .pure _
  · exact .bind _ _ (constructs_newScalar _ _ _) fun block => .pure _

end Block

namespace Document

open Xml (Element)

theorem constructs_loadState (element : Element) : Constructs (loadState element).run := by
  unfold loadState
  refine .bindTry _ _ (.ofExcept _) fun _ => .bindTry _ _ (.ofExcept _) fun endpoint =>
    .bindTry _ _ (.ofExcept _) fun field => .bindTry _ _ (.ofExcept _) fun typeName =>
    .bindTry _ _ (.ofExcept _) fun count => ?_
  cases count with
  | none =>
    exact .bindTry _ _ (.ofNumbering _ (Block.constructs_newScalar _ _ _)) fun block => .ofExcept _
  | some slots =>
    exact .bindTry _ _ (.ofNumbering _ (Block.constructs_newObject _ _ _ _)) fun block =>
      .ofExcept _

theorem constructs_filled (block child : Block) (index : Nat) (fault : LoadError) :
    Constructs (match block.fillSlot index child with
      | .ok (_, filled) => pure filled
      | .error _ => throw fault : Load Block).run := by
  cases block.fillSlot index child with
  | ok filled => exact .pure _
  | error cause => exact .ofExcept (.error fault)

mutual

theorem constructs_loadTree (e : Element) : Constructs (loadTree e).run := by
  obtain ⟨name, attributes, children, text⟩ := e
  rw [loadTree]
  split
  · exact .ofExcept (.error _)
  · cases firstNamed "mutation" children with
    | none => exact .ofExcept (.error _)
    | some state =>
      exact .bindTry _ _ (constructs_loadState state) (constructs_loadInputs children)

theorem constructs_loadInputs (elements : List Element) (block : Block) :
    Constructs (loadInputs elements block).run := by
  match elements with
  | [] => exact .pure _
  | .mk name attributes children text :: rest =>
    rw [loadInputs]
    split
    · refine .bindTry _ _ (.ofExcept _) fun input =>
        .bindTry _ _ (constructs_loadPlugged input children block) fun plugged =>
          constructs_loadInputs rest plugged
    · exact constructs_loadInputs rest block

theorem constructs_loadPlugged (input : String) (elements : List Element) (block : Block) :
    Constructs (loadPlugged input elements block).run := by
  match elements with
  | [] => exact .pure _
  | .mk name attributes children text :: rest =>
    rw [loadPlugged]
    split
    · refine .bindTry _ _ (.ofExcept _) fun found => ?_
      cases found with
      | parameter index => exact .bindTry _ _ (.ofExcept _) fun value => .ofExcept _
      | slot index =>
        exact .bindTry _ _ (constructs_loadTree (.mk name attributes children text)) fun child =>
          constructs_filled block child index _
    · exact constructs_loadPlugged input rest block

end

end Document

theorem nodup_of_subperm {α : Type} (xs ys : List α) (h : xs.Subperm ys) (hn : ys.Nodup) :
    xs.Nodup := by
  obtain ⟨zs, hp, hs⟩ := h
  exact hp.nodup_iff.mp (hs.nodup hn)

theorem subperm_map {α β : Type} (f : α → β) (xs ys : List α) (h : xs.Subperm ys) :
    (xs.map f).Subperm (ys.map f) := by
  obtain ⟨zs, hp, hs⟩ := h
  exact ⟨zs.map f, hp.map f, hs.map f⟩

/-- What a run leaves, the next run starts from. -/
theorem subperm_later (next mid stop : Nat) (given early later : List BlockId) (hs : next ≤ mid)
    (hm : mid ≤ stop) (he : early.Subperm (numbers next mid ++ given))
    (hl : later.Subperm (numbers mid stop ++ early)) :
    later.Subperm (numbers next stop ++ given) := by
  have hall := hl.trans ((List.subperm_append_left (numbers mid stop)).mpr he)
  rw [← numbers_append next mid stop hs hm, List.append_assoc]
  exact hall.trans (List.perm_append_comm_assoc _ _ _).subperm

namespace Block

theorem ids_eq_marks (block : Block) : block.ids = block.marks.map fun mark => mark.2.id := by
  rw [ids, marks, List.map_map]
  rfl

theorem ids_mapHeader (block : Block) (f : Header → Header)
    (hf : ∀ header : Header, (f header).id = header.id) : (block.mapHeader f).ids = block.ids := by
  cases block with
  | scalar header => simp [ids, preorder, mapHeader, Block.id, Block.header, hf]
  | object header slots => simp [ids, preorder, mapHeader, Block.id, Block.header, hf]

theorem ids_childless (header : Header) (count : Nat) :
    (Block.object header (List.replicate count none)).ids = [header.id] := by
  rw [ids_eq]
  simp [Block.slots, slotIds, Block.id, Block.header]

theorem subperm_fillSlot (block child filled : Block) (index : Nat) (held : Option Block)
    (h : block.fillSlot index child = .ok (held, filled)) :
    filled.ids.Subperm (child.ids ++ block.ids) := by
  have hm := moves_placing child (.fill index) block
  have ha : (Placing.fill index).apply child block = (held.toList, filled) := by
    rw [Placing.apply, tried, attempt_of_ok (fun b => b.fillSlot index child) _ _ _ h]
  rw [ha, Moves, forestMarks, forestMarks, List.flatMap_singleton] at hm
  have hfilled := subperm_map (fun mark => mark.2.id) _ _
    ((List.sublist_append_right _ filled.marks).subperm.trans hm)
  rw [List.map_append] at hfilled
  rw [ids_eq_marks, ids_eq_marks, ids_eq_marks]
  exact hfilled

end Block

namespace Document

open Xml (Element)

/-- The blocks of what is loaded have, each at most once, the numbers that are used and the
identities that were there before. -/
def Draws (load : Load Block) (given : List BlockId) : Prop :=
  ∀ next block stop, load.run next = (.ok block, stop) →
    block.ids.Subperm (numbers next stop ++ given)

theorem draws_ofExcept (result : Except LoadError Block) (given : List BlockId)
    (h : ∀ block, result = .ok block → block.ids.Subperm given) : Draws (liftM result) given := by
  intro next block stop hrun
  rw [run_ofExcept] at hrun
  obtain ⟨hresult, rfl⟩ := Prod.mk.inj hrun
  rw [numbers_self]
  exact h block hresult

theorem draws_after {α : Type} (result : Except LoadError α) (f : α → Load Block)
    (given : List BlockId) (h : ∀ value, Draws (f value) given) :
    Draws (liftM result >>= f) given := by
  intro next block stop hrun
  obtain ⟨value, mid, hfirst, hlater⟩ := run_bind_eq_ok _ _ next stop block hrun
  rw [run_ofExcept] at hfirst
  obtain ⟨-, rfl⟩ := Prod.mk.inj hfirst
  exact h value next block stop hlater

/-- A load goes on with the block of another, beside what was there before. -/
theorem draws_bind (first : Load Block) (f : Block → Load Block) (given kept : List BlockId)
    (hc : Constructs first.run) (hcf : ∀ block, Constructs (f block).run)
    (hf : Draws first given) (hd : ∀ block, Draws (f block) (block.ids ++ kept)) :
    Draws (first >>= f) (given ++ kept) := by
  intro next block stop hrun
  obtain ⟨found, mid, hfirst, hlater⟩ := run_bind_eq_ok _ _ next stop block hrun
  have hmid : next ≤ (first.run next).2 := hc.run_le first.run next
  have hstop : mid ≤ ((f found).run mid).2 := (hcf found).run_le (f found).run mid
  rw [hfirst] at hmid
  rw [hlater] at hstop
  have hids : (found.ids ++ kept).Subperm ((numbers next mid ++ given) ++ kept) :=
    (List.subperm_append_right kept).mpr (hf next found mid hfirst)
  rw [List.append_assoc] at hids
  exact subperm_later next mid stop _ _ _ hmid hstop hids (hd found mid block stop hlater)

theorem draws_then (first : Load Block) (f : Block → Load Block) (given : List BlockId)
    (hc : Constructs first.run) (hcf : ∀ block, Constructs (f block).run)
    (hf : Draws first given) (hd : ∀ block, Draws (f block) block.ids) :
    Draws (first >>= f) given := by
  have h := draws_bind first f given [] hc hcf hf fun block => by
    rw [List.append_nil]
    exact hd block
  rwa [List.append_nil] at h

theorem draws_pure (block : Block) : Draws (pure block) block.ids := by
  apply draws_ofExcept (.ok block)
  intro loaded h
  cases h
  exact List.Subperm.refl _

theorem draws_throw (fault : LoadError) (given : List BlockId) : Draws (throw fault) given := by
  apply draws_ofExcept (.error fault)
  intro loaded h
  cases h

theorem draws_newScalar (endpoint field typeName : String) :
    Draws (liftM (Block.newScalar endpoint field typeName)) [] := by
  intro next block stop hrun
  cases hrun
  rw [numbers_succ]
  exact List.Subperm.refl _

theorem draws_newObject (endpoint field typeName : String) (slotCount : Nat) :
    Draws (liftM (Block.newObject endpoint field typeName slotCount)) [] := by
  intro next block stop hrun
  cases hrun
  rw [numbers_succ, Block.ids_childless]
  exact List.Subperm.refl _

theorem draws_addParameters (elements : List Element) (block : Block) :
    Draws (liftM (addParameters elements block)) block.ids := by
  apply draws_ofExcept
  intro loaded h
  have hids : loaded.ids = block.ids := by
    refine addParameters_keeps (fun b => b.ids = block.ids) ?_ elements block loaded rfl h
    intro b name typeName hb
    rw [b.ids_mapHeader (fun header => header.addParameter name typeName) fun header => rfl, hb]
  rw [hids]

theorem draws_loadState (element : Element) : Draws (loadState element) [] := by
  unfold loadState
  refine draws_after _ _ _ fun _ => draws_after _ _ _ fun endpoint => draws_after _ _ _ fun field =>
    draws_after _ _ _ fun typeName => draws_after _ _ _ fun count => ?_
  cases count with
  | none =>
    exact draws_then _ _ [] (.ofNumbering _ (Block.constructs_newScalar _ _ _))
      (fun _ => .ofExcept _) (draws_newScalar _ _ _) (draws_addParameters element.children)
  | some slots =>
    exact draws_then _ _ [] (.ofNumbering _ (Block.constructs_newObject _ _ _ _))
      (fun _ => .ofExcept _) (draws_newObject _ _ _ _) (draws_addParameters element.children)

theorem draws_filled (block child : Block) (index : Nat) (fault : LoadError) :
    Draws (match block.fillSlot index child with
      | .ok (_, filled) => pure filled
      | .error _ => throw fault) (child.ids ++ block.ids) := by
  cases h : block.fillSlot index child with
  | error cause => exact draws_throw fault _
  | ok filled =>
    apply draws_ofExcept (.ok filled.2)
    intro loaded hl
    cases hl
    exact Block.subperm_fillSlot block child filled.2 index filled.1 h

theorem draws_bound (name : String) (block : Block) (index : Nat) (value : Option BoundValue) :
    Draws (liftM (orInvalid name (block.bindAt? index value))) block.ids := by
  apply draws_ofExcept
  intro bound h
  have hb := orInvalid_eq_ok name _ bound h
  rw [Block.bindAt?] at hb
  split at hb
  · cases hb
    rw [block.ids_mapHeader (fun header => header.bind index value) fun header => rfl]
  · cases hb

mutual

theorem draws_loadTree (e : Element) : Draws (loadTree e) [] := by
  obtain ⟨name, attributes, children, text⟩ := e
  rw [loadTree]
  split
  · exact draws_throw _ []
  · cases firstNamed "mutation" children with
    | none => exact draws_throw _ []
    | some state =>
      exact draws_then _ _ [] (constructs_loadState state) (constructs_loadInputs children)
        (draws_loadState state) (draws_loadInputs children)

theorem draws_loadInputs (elements : List Element) (block : Block) :
    Draws (loadInputs elements block) block.ids := by
  match elements with
  | [] => exact draws_pure block
  | .mk name attributes children text :: rest =>
    rw [loadInputs]
    split
    · exact draws_after _ _ _ fun input =>
        draws_then _ _ block.ids (constructs_loadPlugged input children block)
          (constructs_loadInputs rest) (draws_loadPlugged input children block)
          (draws_loadInputs rest)
    · exact draws_loadInputs rest block

theorem draws_loadPlugged (input : String) (elements : List Element) (block : Block) :
    Draws (loadPlugged input elements block) block.ids := by
  match elements with
  | [] => exact draws_pure block
  | .mk name attributes children text :: rest =>
    rw [loadPlugged]
    split
    · refine draws_after _ _ _ fun found => ?_
      cases found with
      | parameter index => exact draws_after _ _ _ fun value => draws_bound input block index _
      | slot index =>
        exact draws_bind _ _ [] block.ids (constructs_loadTree (.mk name attributes children text))
          (fun child => constructs_filled block child index _)
          (draws_loadTree (.mk name attributes children text))
          fun child => draws_filled block child index _
    · exact draws_loadPlugged input rest block

end

end Document

namespace Block

theorem constructs_ofStateText (text : String) : Constructs (ofStateText text).run :=
  .bindTry _ _ (.ofExcept _) Document.constructs_loadState

theorem constructs_ofTreeText (text : String) : Constructs (ofTreeText text).run :=
  .bindTry _ _ (.ofExcept _) Document.constructs_loadTree

theorem draws_ofStateText (text : String) : Document.Draws (ofStateText text) [] :=
  Document.draws_after _ _ [] Document.draws_loadState

theorem draws_ofTreeText (text : String) : Document.Draws (ofTreeText text) [] :=
  Document.draws_after _ _ [] Document.draws_loadTree

mutual

theorem ids_renewed (next : Nat) (block : Block) :
    next ≤ (renewed next block).2 ∧
      (renewed next block).1.ids = numbers next (renewed next block).2 := by
  match block with
  | .scalar header => exact ⟨Nat.le_succ next, (numbers_succ next).symm⟩
  | .object header slots =>
    obtain ⟨hle, hids⟩ := ids_renewedSlots (next + 1) slots
    refine ⟨Nat.le_of_succ_le hle, ?_⟩
    rw [ids, renewed, preorder, List.map_cons, hids,
      ← numbers_append next (next + 1) _ (Nat.le_succ next) hle, numbers_succ]
    rfl

theorem ids_renewedSlots (next : Nat) (slots : List (Option Block)) :
    next ≤ (renewedSlots next slots).2 ∧
      (preorderSlots (renewedSlots next slots).1).map Block.id =
        numbers next (renewedSlots next slots).2 := by
  match slots with
  | [] => exact ⟨Nat.le_refl next, (numbers_self next).symm⟩
  | none :: rest => exact ids_renewedSlots next rest
  | some child :: rest =>
    obtain ⟨hmid, hchild⟩ := ids_renewed next child
    obtain ⟨hstop, hrest⟩ := ids_renewedSlots (renewed next child).2 rest
    refine ⟨Nat.le_trans hmid hstop, ?_⟩
    rw [ids] at hchild
    rw [renewedSlots, preorderSlots, List.map_append, hchild, hrest,
      numbers_append next _ _ hmid hstop]

end

/-- A tree that loads from the text that it was saved to has consecutive numbers in preorder. -/
theorem ids_ofTreeText_toTreeText (tree loaded : Block) (next stop : Nat) (hc : tree.Countable)
    (h : (ofTreeText tree.toTreeText).run next = (.ok loaded, stop)) :
    loaded.ids = numbers next stop := by
  have hb := (ofTreeText_toTreeText tree next hc).1.mp ⟨loaded, congrArg Prod.fst h⟩
  rw [run_ofTreeText_toTreeText, Document.run_loadTree tree next hc hb] at h
  cases h
  exact (ids_renewed next tree).2

end Block

end QueryBlocks
