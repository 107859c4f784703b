import Mathlib.Data.List.Basic
import QueryBlocks.Proofs.Block.Traversal
import QueryBlocks.Workspace.Sync

/-!
# What a pass leaves behind

A pass puts every block of its endpoint into the state that the cached schema asks for, and
delivers results without touching a block.
-/

set_option autoImplicit false

namespace QueryBlocks

namespace Schema

def stateOf (schema : Schema) (isObject : Bool) (header : Header) : BlockState :=
  match schema.typeOf isObject header with
  | .ok _ => .bound
  | .error condition => .stale condition

structure Dictates (schema : Schema) (block : Block) : Prop where
  removed : schema.type? block.header.typeName = none →
    block.header.state = .stale (.typeRemoved block.header.endpoint block.header.typeName)
  bound : ∀ type, schema.type? block.header.typeName = some type →
    (type.kind = .object ↔ block.isObject = true) → block.header.state = .bound
  mismatched : ∀ type, schema.type? block.header.typeName = some type →
    ¬(type.kind = .object ↔ block.isObject = true) →
      block.header.state = .stale (.kindMismatch block.header.typeName block.isObject type.kind)

theorem stateOf_removed (schema : Schema) (isObject : Bool) (header : Header)
    (h : schema.type? header.typeName = none) :
    schema.stateOf isObject header = .stale (.typeRemoved header.endpoint header.typeName) := by
  rw [stateOf, typeOf, h]

theorem stateOf_found (schema : Schema) (isObject : Bool) (header : Header) (type : TypeDef)
    (h : schema.type? header.typeName = some type) :
    schema.stateOf isObject header =
      if type.kind = .object ↔ isObject = true then .bound
      else .stale (.kindMismatch header.typeName isObject type.kind) := by
  have hk : (decide (type.kind = .object) = isObject) ↔
      (type.kind = .object ↔ isObject = true) := by
    rw [Bool.eq_iff_iff, decide_eq_true_iff]
  simp only [stateOf, typeOf, h]
  by_cases hf : decide (type.kind = .object) = isObject
  · rw [if_pos hf, if_pos (hk.mp hf)]
  · rw [if_neg hf, if_neg fun hc => hf (hk.mpr hc)]

theorem dictates_of_state (schema : Schema) (block : Block)
    (h : block.header.state = schema.stateOf block.isObject block.header) :
    schema.Dictates block where
  removed hr := by rw [h, schema.stateOf_removed _ _ hr]
  bound type hf hk := by rw [h, schema.stateOf_found _ _ type hf, if_pos hk]
  mismatched type hf hk := by rw [h, schema.stateOf_found _ _ type hf, if_neg hk]

end Schema

namespace Workspace

variable {σ : Type} (endpoint : String) (f : Bool → Header → StateM σ Header) (roots : List Block)

/-- The callback sees the blocks of the endpoint in pre-order. -/
theorem state_visitLive (s : σ) :
    ((visitLive endpoint f roots).run s).2 =
      ((roots.flatMap Block.preorder).filter fun block => block.endpoint == endpoint).foldl
        (Block.seeing f) s := by
  rw [List.foldl_filter]
  refine (Block.state_visit_forest _ roots s).trans ?_
  congr 1
  funext s block
  cases he : block.endpoint == endpoint with
  | true => simp only [Block.seeing, show (block.header.endpoint == endpoint) = true from he, if_pos]
  | false =>
    simp only [Block.seeing, show (block.header.endpoint == endpoint) = false from he,
      Bool.false_eq_true, if_false]
    rfl

theorem forest_visitLive (g : Bool → Header → Header) (h : Block.Returns f g) (s : σ) :
    ((visitLive endpoint f roots).run s).1 =
      roots.map (Block.mapHeaders fun isObject header =>
        if header.endpoint = endpoint then g isObject header else header) := by
  refine Block.forest_visit _ _ ?_ roots s
  intro isObject header s
  by_cases he : header.endpoint = endpoint
  · simpa [he] using h isObject header s
  · simp only [beq_iff_eq, he, if_false]
    rfl

end Workspace

namespace SchemaCache

def passHeader (cache : SchemaCache) (endpoint : String) (isObject : Bool) (header : Header) :
    Header :=
  if header.endpoint = endpoint then (cache.revalidateHeader isObject header).2 else header

theorem run_passVisit (cache : SchemaCache) (endpoint : String) (isObject : Bool)
    (header : Header) (results : List (BlockId × Revalidation)) :
    (cache.passVisit endpoint isObject header).run results =
      if header.endpoint = endpoint then
        ((cache.revalidateHeader isObject header).2,
          results ++ [(header.id, (cache.revalidateHeader isObject header).1)])
      else (header, results) := by
  simp only [passVisit, beq_iff_eq]
  split <;> rfl

theorem returns_passVisit (cache : SchemaCache) (endpoint : String) :
    Block.Returns (cache.passVisit endpoint) (cache.passHeader endpoint) := by
  intro isObject header results
  rw [run_passVisit, passHeader]
  split <;> rfl

/-- The results are those for the blocks of the endpoint, in pre-order. -/
theorem resultsFor_forest (cache : SchemaCache) (endpoint : String) (forest : List Block) :
    cache.resultsFor endpoint forest =
      ((forest.flatMap Block.preorder).filter fun block => block.endpoint == endpoint).map
        fun block => (block.id, (cache.revalidate block).1) := by
  have hstep : ∀ results,
      ∀ block ∈ (forest.flatMap Block.preorder).filter fun block => block.endpoint == endpoint,
        Block.seeing (cache.passVisit endpoint) results block =
          results ++ [(block.id, (cache.revalidate block).1)] := by
    intro results block hb
    have he : block.header.endpoint = endpoint := beq_iff_eq.mp (List.mem_filter.mp hb).2
    rw [Block.seeing, run_passVisit, if_pos he]
    rfl
  refine (Workspace.state_visitLive endpoint _ forest []).trans ?_
  rw [List.foldl_ext _ _ [] hstep, List.foldl_append_eq_append, List.nil_append,
    ← List.flatMap_def, ← List.map_eq_flatMap]

theorem resultsFor_eq (cache : SchemaCache) (endpoint : String) (workspace : Workspace) :
    cache.resultsFor endpoint workspace.roots =
      (workspace.liveBlocks endpoint).map fun block => (block.id, (cache.revalidate block).1) :=
  cache.resultsFor_forest endpoint workspace.roots

/-- The walk changes the headers of the forest and nothing else. -/
theorem revalidateForest_eq (cache : SchemaCache) (endpoint : String) (forest : List Block) :
    cache.revalidateForest endpoint forest =
      forest.map (Block.mapHeaders (cache.passHeader endpoint)) := by
  refine (Workspace.forest_visitLive endpoint _ forest _ (cache.returns_passVisit endpoint)
    []).trans ?_
  -- the callback asks for the endpoint once more
  simp only [passHeader, ← ite_and, and_self]
  rfl

/-- A check changes only the state and the description of the type. -/
theorem revalidateHeader_frame (cache : SchemaCache) (isObject : Bool) (header : Header) :
    ∃ state typeDescription, (cache.revalidateHeader isObject header).2 =
      { header with state, typeDescription } := by
  unfold revalidateHeader
  split
  · exact ⟨_, _, rfl⟩
  · split
    · exact ⟨_, _, rfl⟩
    · exact ⟨_, _, rfl⟩

theorem header_revalidate (cache : SchemaCache) (block : Block) :
    (cache.revalidate block).2.header =
      (cache.revalidateHeader block.isObject block.header).2 := by
  cases block <;> rfl

theorem isObject_revalidate (cache : SchemaCache) (block : Block) :
    (cache.revalidate block).2.isObject = block.isObject := by
  cases block <;> rfl

theorem revalidateHeader_state (cache : SchemaCache) (schema : Schema) (isObject : Bool)
    (header : Header) (h : cache.get? header.endpoint = some schema) :
    (cache.revalidateHeader isObject header).2.state = schema.stateOf isObject header := by
  simp only [revalidateHeader, Schema.stateOf, h]
  cases schema.typeOf isObject header <;> rfl

/-- What a check changes has no part in the next check. -/
theorem stateOf_revalidateHeader (cache : SchemaCache) (schema : Schema) (isObject : Bool)
    (header : Header) :
    schema.stateOf isObject (cache.revalidateHeader isObject header).2 =
      schema.stateOf isObject header := by
  obtain ⟨state, typeDescription, h⟩ := cache.revalidateHeader_frame isObject header
  rw [h]
  rfl

theorem roots_deliver (results : List (BlockId × Revalidation)) (workspace : Workspace) :
    (results.foldl (fun w entry => w.deliver entry.1 entry.2) workspace).roots =
      workspace.roots := by
  induction results generalizing workspace with
  | nil => rfl
  | cons entry results ih => rw [List.foldl_cons, ih]; rfl

theorem roots_pass (cache : SchemaCache) (endpoint : String) (workspace : Workspace) :
    (cache.syncEndpoint endpoint workspace).2.roots =
      workspace.roots.map (Block.mapHeaders (cache.passHeader endpoint)) :=
  (roots_deliver _ _).trans (cache.revalidateForest_eq endpoint workspace.roots)

/-- After a pass every block of the endpoint is in the state that the cached schema asks for. -/
theorem state_syncEndpoint (cache : SchemaCache) (endpoint : String) (workspace : Workspace)
    (schema : Schema) (hs : cache.get? endpoint = some schema) (block : Block)
    (hb : block ∈ (cache.syncEndpoint endpoint workspace).2.liveBlocks endpoint) :
    block.header.state = schema.stateOf block.isObject block.header := by
  obtain ⟨hmem, he⟩ := List.mem_filter.mp hb
  have hend : block.header.endpoint = endpoint := beq_iff_eq.mp he
  rw [Workspace.blocks, roots_pass, Block.preorder_mapHeaders_forest] at hmem
  obtain ⟨before, -, rfl⟩ := List.mem_map.mp hmem
  have hkept : before.header.endpoint = endpoint := by
    rw [Block.header_mapHeaders, passHeader] at hend
    split at hend
    · assumption
    · exact hend
  rw [Block.isObject_mapHeaders, Block.header_mapHeaders, passHeader, if_pos hkept,
    stateOf_revalidateHeader]
  exact cache.revalidateHeader_state schema before.isObject before.header (hkept ▸ hs)

theorem apply_failure (cache : SchemaCache) (endpoint : String) (outcome : FetchOutcome)
    (workspace : Workspace) (h : ∀ schema, outcome ≠ .loaded schema) :
    (cache.apply endpoint outcome workspace).2 = workspace := by
  cases outcome with
  | loaded schema => exact absurd rfl (h schema)
  | transportFailed cause => rfl
  | schemaErrors cause => rfl

end SchemaCache

end QueryBlocks
