import QueryBlocks.Block.Basic

/-!
# Walking over a tree

A walk calls back on the blocks of a tree in pre-order. Where the headers that the callback
returns do not depend on what it has seen, the walk is a change of all headers: it reaches every
block of the tree once, keeps its shape and leaves its place in the order.
-/

set_option autoImplicit false

namespace QueryBlocks.Block

theorem isObject_mapHeaders (f : Bool → Header → Header) (block : Block) :
    (block.mapHeaders f).isObject = block.isObject := by
  cases block <;> rfl

theorem header_mapHeaders (f : Bool → Header → Header) (block : Block) :
    (block.mapHeaders f).header = f block.isObject block.header := by
  cases block <;> rfl

mutual

theorem preorder_mapHeaders (f : Bool → Header → Header) (block : Block) :
    (block.mapHeaders f).preorder = block.preorder.map (mapHeaders f) := by
  match block with
  | .scalar header => rfl
  | .object header slots =>
    rw [mapHeaders, preorder, preorder, List.map_cons, mapHeaders, preorderSlots_mapHeaders f slots]

theorem preorderSlots_mapHeaders (f : Bool → Header → Header) (slots : List (Option Block)) :
    preorderSlots (mapHeadersSlots f slots) = (preorderSlots slots).map (mapHeaders f) := by
  match slots with
  | [] => rfl
  | none :: rest => exact preorderSlots_mapHeaders f rest
  | some child :: rest =>
    rw [mapHeadersSlots, preorderSlots, preorderSlots, List.map_append,
      preorder_mapHeaders f child, preorderSlots_mapHeaders f rest]

end

theorem preorder_mapHeaders_forest (f : Bool → Header → Header) (forest : List Block) :
    (forest.map (mapHeaders f)).flatMap preorder =
      (forest.flatMap preorder).map (mapHeaders f) := by
  rw [List.flatMap_map, List.map_flatMap]
  exact congrArg (fun g => forest.flatMap g) (funext (preorder_mapHeaders f))

mutual

theorem mapHeaders_id (block : Block) : (block.mapHeaders fun _ header => header) = block := by
  match block with
  | .scalar header => rfl
  | .object header slots => rw [mapHeaders, mapHeadersSlots_id slots]

theorem mapHeadersSlots_id (slots : List (Option Block)) :
    mapHeadersSlots (fun _ header => header) slots = slots := by
  match slots with
  | [] => rfl
  | none :: rest => rw [mapHeadersSlots, mapHeadersSlots_id rest]
  | some child :: rest => rw [mapHeadersSlots, mapHeaders_id child, mapHeadersSlots_id rest]

end

mutual

/-- Two changes one after the other are one change. -/
theorem mapHeaders_mapHeaders (f g : Bool → Header → Header) (block : Block) :
    (block.mapHeaders f).mapHeaders g =
      block.mapHeaders fun isObject header => g isObject (f isObject header) := by
  match block with
  | .scalar header => rfl
  | .object header slots =>
    rw [mapHeaders, mapHeaders, mapHeaders, mapHeadersSlots_mapHeadersSlots f g slots]

theorem mapHeadersSlots_mapHeadersSlots (f g : Bool → Header → Header)
    (slots : List (Option Block)) :
    mapHeadersSlots g (mapHeadersSlots f slots) =
      mapHeadersSlots (fun isObject header => g isObject (f isObject header)) slots := by
  match slots with
  | [] => rfl
  | none :: rest =>
    rw [mapHeadersSlots, mapHeadersSlots, mapHeadersSlots,
      mapHeadersSlots_mapHeadersSlots f g rest]
  | some child :: rest =>
    rw [mapHeadersSlots, mapHeadersSlots, mapHeadersSlots, mapHeaders_mapHeaders f g child,
      mapHeadersSlots_mapHeadersSlots f g rest]

end

section

variable {σ : Type} (f : Bool → Header → StateM σ Header)

def seeing (s : σ) (block : Block) : σ := ((f block.isObject block.header).run s).2

mutual

/-- The callback sees the blocks of a tree in pre-order. -/
theorem state_visit (block : Block) (s : σ) :
    ((block.visit f).run s).2 = block.preorder.foldl (seeing f) s := by
  match block with
  | .scalar header => rfl
  | .object header slots =>
    rw [preorder, List.foldl_cons, ← state_visitSlots slots]
    rfl

theorem state_visitSlots (slots : List (Option Block)) (s : σ) :
    ((visitSlots f slots).run s).2 = (preorderSlots slots).foldl (seeing f) s := by
  match slots with
  | [] => rfl
  | none :: rest => exact state_visitSlots rest s
  | some child :: rest =>
    rw [preorderSlots, List.foldl_append, ← state_visit child, ← state_visitSlots rest]
    rfl

end

theorem state_visit_forest (forest : List Block) (s : σ) :
    ((forest.mapM (visit f)).run s).2 = (forest.flatMap preorder).foldl (seeing f) s := by
  induction forest generalizing s with
  | nil => rfl
  | cons root rest ih =>
    rw [List.flatMap_cons, List.foldl_append, ← state_visit, ← ih, List.mapM_cons]
    rfl

/-- The headers that the callback returns, when they do not depend on what it has seen. -/
def Returns (g : Bool → Header → Header) : Prop :=
  ∀ isObject header s, ((f isObject header).run s).1 = g isObject header

variable (g : Bool → Header → Header)

mutual

theorem block_visit (h : Returns f g) (block : Block) (s : σ) :
    ((block.visit f).run s).1 = block.mapHeaders g := by
  match block with
  | .scalar header => exact congrArg Block.scalar (h false header s)
  | .object header slots =>
    rw [mapHeaders, ← h true header s, ← slots_visitSlots h slots]
    rfl

theorem slots_visitSlots (h : Returns f g) (slots : List (Option Block)) (s : σ) :
    ((visitSlots f slots).run s).1 = mapHeadersSlots g slots := by
  match slots with
  | [] => rfl
  | none :: rest => exact congrArg (none :: ·) (slots_visitSlots h rest s)
  | some child :: rest =>
    rw [mapHeadersSlots, ← block_visit h child s,
      ← slots_visitSlots h rest ((child.visit f).run s).2]
    rfl

end

theorem forest_visit (h : Returns f g) (forest : List Block) (s : σ) :
    ((forest.mapM (visit f)).run s).1 = forest.map (mapHeaders g) := by
  induction forest generalizing s with
  | nil => rfl
  | cons root rest ih =>
    rw [List.map_cons, ← block_visit f g h root s, ← ih ((root.visit f).run s).2, List.mapM_cons]
    rfl

end

end QueryBlocks.Block
