import QueryBlocks.Proofs.Block.Traversal
import QueryBlocks.Workspace.Basic

/-!
# Places

A place in a forest is a root and a path of slot indexes below it. A change of all headers
leaves every place where it is, and a block at a place keeps its part of the order.
-/

set_option autoImplicit false

namespace QueryBlocks

namespace Block

def own : Block → Header × Option (List Bool)
  | .scalar header => (header, none)
  | .object header slots => (header, some (slots.map Option.isSome))

theorem mapHeadersSlots_eq_map (f : Bool → Header → Header) (slots : List (Option Block)) :
    mapHeadersSlots f slots = slots.map (Option.map (mapHeaders f)) := by
  induction slots with
  | nil => rfl
  | cons slot rest ih => cases slot <;> simp [mapHeadersSlots, ih]

theorem slots_mapHeaders (f : Bool → Header → Header) (block : Block) :
    (block.mapHeaders f).slots = block.slots.map (Option.map (mapHeaders f)) := by
  cases block with
  | scalar header => rfl
  | object header slots => exact mapHeadersSlots_eq_map f slots

theorem child?_mapHeaders (f : Bool → Header → Header) (block : Block) (index : Nat) :
    (block.mapHeaders f).child? index = (block.child? index).map (mapHeaders f) := by
  rw [child?, child?, slots_mapHeaders, List.getElem?_map]
  cases block.slots[index]? with
  | none => rfl
  | some slot => cases slot <;> rfl

theorem atPath?_mapHeaders (f : Bool → Header → Header) (path : List Nat) (block : Block) :
    Block.atPath? path (block.mapHeaders f) = (Block.atPath? path block).map (mapHeaders f) := by
  induction path generalizing block with
  | nil => rfl
  | cons index path ih =>
    simp only [atPath?, child?_mapHeaders]
    cases block.child? index with
    | none => rfl
    | some child => exact ih child

theorem own_mapHeader (f : Header → Header) (block : Block) :
    (block.mapHeader f).own = (f block.header, block.own.2) := by
  cases block <;> rfl

/-- Of a change of all headers a block sees on its own what the change makes of its header. -/
theorem own_mapHeaders (f : Bool → Header → Header) (block : Block) :
    (block.mapHeaders f).own = (f block.isObject block.header, block.own.2) := by
  cases block with
  | scalar header => rfl
  | object header slots =>
    rw [mapHeaders, own, own, mapHeadersSlots_eq_map, List.map_map]
    simp [Function.comp_def, isObject, Block.header]

theorem mem_preorderSlots (b : Block) (slots : List (Option Block)) :
    b ∈ preorderSlots slots ↔ ∃ child, some child ∈ slots ∧ b ∈ child.preorder := by
  induction slots with
  | nil => simp [preorderSlots]
  | cons slot rest ih => cases slot <;> simp [preorderSlots, ih]

theorem child?_eq_some_iff (block : Block) (index : Nat) (child : Block) :
    block.child? index = some child ↔ block.slots[index]? = some (some child) := by
  rw [child?]
  cases block.slots[index]? <;> simp

theorem preorder_eq (block : Block) : block.preorder = block :: preorderSlots block.slots := by
  cases block <;> rfl

theorem atPath?_cons (index : Nat) (path : List Nat) (block : Block) :
    atPath? (index :: path) block = (block.child? index).bind (atPath? path) := rfl

/-- What stands below a place of a tree stands in the tree. -/
theorem preorder_atPath? (path : List Nat) (block b : Block) (h : atPath? path block = some b) :
    b.preorder ⊆ block.preorder := by
  induction path generalizing block with
  | nil =>
    cases h
    exact List.Subset.refl _
  | cons index path ih =>
    rw [atPath?_cons, Option.bind_eq_some_iff] at h
    obtain ⟨child, hc, hb⟩ := h
    rw [child?_eq_some_iff] at hc
    intro x hx
    rw [preorder_eq block]
    exact List.mem_cons_of_mem _ ((mem_preorderSlots x block.slots).mpr
      ⟨child, List.mem_of_getElem? hc, ih child hb hx⟩)

mutual

def located : Block → List (List Nat × Block)
  | .scalar header => [([], .scalar header)]
  | .object header slots => ([], .object header slots) :: locatedSlots 0 slots

def locatedSlots (index : Nat) : List (Option Block) → List (List Nat × Block)
  | [] => []
  | none :: rest => locatedSlots (index + 1) rest
  | some child :: rest =>
    (located child).map (fun entry => (index :: entry.1, entry.2)) ++ locatedSlots (index + 1) rest

end

theorem located_eq (block : Block) : block.located = ([], block) :: locatedSlots 0 block.slots := by
  cases block <;> rfl

mutual

theorem map_snd_located (block : Block) : block.located.map Prod.snd = block.preorder := by
  match block with
  | .scalar header => rfl
  | .object header slots =>
    rw [located, preorder, List.map_cons, map_snd_locatedSlots 0 slots]

theorem map_snd_locatedSlots (index : Nat) (slots : List (Option Block)) :
    (locatedSlots index slots).map Prod.snd = preorderSlots slots := by
  match slots with
  | [] => rfl
  | none :: rest => exact map_snd_locatedSlots (index + 1) rest
  | some child :: rest =>
    rw [locatedSlots, preorderSlots, List.map_append, List.map_map,
      ← map_snd_located child, ← map_snd_locatedSlots (index + 1) rest]
    rfl

end

theorem mem_locatedSlots (index : Nat) (slots : List (Option Block)) (path : List Nat)
    (b : Block) :
    (path, b) ∈ locatedSlots index slots ↔ ∃ (i : Nat) (child : Block) (rest : List Nat),
      path = (index + i) :: rest ∧ slots[i]? = some (some child) ∧ (rest, b) ∈ child.located := by
  induction slots generalizing index with
  | nil => simp [locatedSlots]
  | cons slot slots ih =>
    -- the first slot, or one of those behind it, which have numbers one higher
    have hlater : (path, b) ∈ locatedSlots (index + 1) slots ↔
        ∃ (i : Nat) (child : Block) (rest : List Nat), path = (index + (i + 1)) :: rest ∧
          (slot :: slots)[i + 1]? = some (some child) ∧ (rest, b) ∈ child.located := by
      simp only [ih, List.getElem?_cons_succ, Nat.add_assoc, Nat.add_comm 1]
    cases slot with
    | none =>
      rw [locatedSlots, hlater]
      constructor
      · rintro ⟨i, found⟩
        exact ⟨i + 1, found⟩
      · rintro ⟨_ | i, child, rest, hp, hs, hm⟩
        · cases hs
        · exact ⟨i, child, rest, hp, hs, hm⟩
    | some first =>
      rw [locatedSlots, List.mem_append, hlater]
      constructor
      · rintro (hm | ⟨i, found⟩)
        · obtain ⟨⟨rest, b⟩, hfirst, hp⟩ := List.mem_map.mp hm
          cases hp
          exact ⟨0, first, rest, rfl, rfl, hfirst⟩
        · exact ⟨i + 1, found⟩
      · rintro ⟨_ | i, child, rest, hp, hs, hm⟩
        · cases hs
          exact .inl (List.mem_map.mpr ⟨(rest, b), hm, by rw [hp]; rfl⟩)
        · exact .inr ⟨i, child, rest, hp, hs, hm⟩

/-- The paths that are listed are those that lead to a block, each with its block. -/
theorem mem_located (path : List Nat) (block b : Block) :
    (path, b) ∈ block.located ↔ atPath? path block = some b := by
  rw [located_eq, List.mem_cons, mem_locatedSlots]
  induction path generalizing block with
  | nil => simp [atPath?, eq_comm]
  | cons index path ih =>
    rw [atPath?_cons, Option.bind_eq_some_iff]
    simp only [Prod.mk.injEq, reduceCtorEq, false_and, false_or, Nat.zero_add, List.cons.injEq,
      child?_eq_some_iff]
    constructor
    · rintro ⟨i, child, rest, ⟨rfl, rfl⟩, hs, hm⟩
      rw [located_eq, List.mem_cons, mem_locatedSlots] at hm
      exact ⟨child, hs, (ih child).mp hm⟩
    · rintro ⟨child, hs, hb⟩
      refine ⟨index, child, path, ⟨rfl, rfl⟩, hs, ?_⟩
      rw [located_eq, List.mem_cons, mem_locatedSlots]
      exact (ih child).mpr hb

mutual

/-- Paths are listed in the order of their slots, a block before those below it. -/
theorem pairwise_located (block : Block) :
    block.located.Pairwise fun a b => a.1 < b.1 := by
  match block with
  | .scalar header => exact List.pairwise_singleton _ _
  | .object header slots =>
    refine List.Pairwise.cons ?_ (pairwise_locatedSlots 0 slots)
    rintro ⟨path, b⟩ hm
    obtain ⟨i, child, rest, rfl, -⟩ := (mem_locatedSlots 0 slots path b).mp hm
    exact List.nil_lt_cons _ _

theorem pairwise_locatedSlots (index : Nat) (slots : List (Option Block)) :
    (locatedSlots index slots).Pairwise fun a b => a.1 < b.1 := by
  match slots with
  | [] => exact .nil
  | none :: rest => exact pairwise_locatedSlots (index + 1) rest
  | some child :: rest =>
    refine List.pairwise_append.mpr ⟨?_, pairwise_locatedSlots (index + 1) rest, ?_⟩
    · refine (pairwise_located child).map _ fun a b h => ?_
      exact List.cons_lt_cons_iff.mpr (.inr ⟨rfl, h⟩)
    · rintro a ha ⟨path, b⟩ hm
      obtain ⟨entry, -, rfl⟩ := List.mem_map.mp ha
      obtain ⟨i, other, tail, rfl, -⟩ := (mem_locatedSlots (index + 1) rest path b).mp hm
      exact List.cons_lt_cons_iff.mpr (.inl (by omega))

end

theorem mem_preorder_iff (block b : Block) :
    b ∈ block.preorder ↔ ∃ path, atPath? path block = some b := by
  simp only [← map_snd_located, List.mem_map, Prod.exists, exists_eq_right, mem_located]

end Block

def Workspace.blockAt? (workspace : Workspace) (root : Nat) (path : List Nat) : Option Block :=
  workspace.roots[root]?.bind (Block.atPath? path)

theorem Workspace.blockAt?_mapHeaders (f : Bool → Header → Header) (before after : Workspace)
    (h : after.roots = before.roots.map (Block.mapHeaders f)) (root : Nat) (path : List Nat) :
    after.blockAt? root path = (before.blockAt? root path).map (Block.mapHeaders f) := by
  rw [blockAt?, blockAt?, h, List.getElem?_map]
  cases before.roots[root]? with
  | none => rfl
  | some block => exact Block.atPath?_mapHeaders f path block

structure Placed where
  root : Nat
  path : List Nat
  block : Block

/-- The order of the roots and, within a root, that of the slots; a block comes before those
below it. -/
def Placed.Before (a b : Placed) : Prop := a.root :: a.path < b.root :: b.path

namespace Workspace

def placed (workspace : Workspace) : List Placed :=
  workspace.roots.zipIdx.flatMap fun (tree, root) =>
    tree.located.map fun (path, block) => { root, path, block }

theorem map_block_placed (workspace : Workspace) :
    workspace.placed.map Placed.block = workspace.blocks := by
  have htree : ∀ tree : Block × Nat,
      (tree.1.located.map fun (path, block) => (⟨tree.2, path, block⟩ : Placed)).map
        Placed.block = tree.1.preorder := by
    intro tree
    rw [List.map_map, ← Block.map_snd_located]
    rfl
  rw [placed, List.map_flatMap, blocks, ← List.zipIdx_map_fst 0 workspace.roots, List.flatMap_map,
    List.zipIdx_map_fst]
  exact congrArg (fun f => workspace.roots.zipIdx.flatMap f) (funext htree)

theorem mem_placed (workspace : Workspace) (root : Nat) (path : List Nat) (block : Block) :
    { root, path, block } ∈ workspace.placed ↔ workspace.blockAt? root path = some block := by
  simp only [placed, List.mem_flatMap, Prod.exists, List.mk_mem_zipIdx_iff_getElem?, List.mem_map,
    Placed.mk.injEq, blockAt?, Option.bind_eq_some_iff, ← Block.mem_located]
  constructor
  · rintro ⟨tree, _, ht, _, _, hm, rfl, rfl, rfl⟩
    exact ⟨tree, ht, hm⟩
  · rintro ⟨tree, ht, hm⟩
    exact ⟨tree, root, ht, path, block, hm, rfl, rfl, rfl⟩

theorem pairwise_placed (workspace : Workspace) : workspace.placed.Pairwise Placed.Before := by
  refine List.pairwise_flatMap.mpr ⟨?_, ?_⟩
  · rintro ⟨tree, root⟩ -
    refine tree.pairwise_located.map _ fun a b h => ?_
    exact List.cons_lt_cons_iff.mpr (.inr ⟨rfl, h⟩)
  · have hroots := List.pairwise_lt_range' (s := 0) (n := workspace.roots.length)
    rw [← List.zipIdx_map_snd, List.pairwise_map] at hroots
    refine hroots.imp ?_
    intro first second h a ha b hb
    obtain ⟨entry, -, rfl⟩ := List.mem_map.mp ha
    obtain ⟨other, -, rfl⟩ := List.mem_map.mp hb
    exact List.cons_lt_cons_iff.mpr (.inl h)

/-- The blocks of a workspace are those at its places. -/
theorem mem_blocks_iff (workspace : Workspace) (block : Block) :
    block ∈ workspace.blocks ↔ ∃ root path, workspace.blockAt? root path = some block := by
  simp only [← map_block_placed, List.mem_map, ← mem_placed]
  constructor
  · rintro ⟨⟨root, path, block⟩, hm, rfl⟩
    exact ⟨root, path, hm⟩
  · rintro ⟨root, path, hm⟩
    exact ⟨_, hm, rfl⟩

theorem mem_liveBlocks_iff (workspace : Workspace) (endpoint : String) (block : Block) :
    block ∈ workspace.liveBlocks endpoint ↔
      (∃ root path, workspace.blockAt? root path = some block) ∧ block.endpoint = endpoint := by
  rw [liveBlocks, List.mem_filter, mem_blocks_iff, beq_iff_eq]

end Workspace

end QueryBlocks
