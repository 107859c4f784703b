import QueryBlocks.Proofs.Workspace.Independence
import QueryBlocks.Proofs.Workspace.Upkeep

/-!
# Checking again

What a check finds does not depend on what a check may change. A check that follows another one,
and a pass that follows another one over the same endpoint, therefore finds the same and leaves
everything as it is.
-/

set_option autoImplicit false

namespace QueryBlocks

namespace SchemaCache

/-- What a check finds for a block of a shape and a header, with the state that it gives the block
and the description of the type that the block has from then on. -/
inductive Finds (cache : SchemaCache) (isObject : Bool) (header : Header) :
    Revalidation → BlockState → Option String → Prop where
  /-- Without a schema nothing is said of the block. -/
  | unknown (hs : cache.get? header.endpoint = none) :
      Finds cache isObject header .noSchema header.state header.typeDescription
  | removed (schema : Schema) (hs : cache.get? header.endpoint = some schema)
      (ht : schema.type? header.typeName = none) :
      Finds cache isObject header (.stale (.typeRemoved header.endpoint header.typeName))
        (.stale (.typeRemoved header.endpoint header.typeName)) header.typeDescription
  | mismatched (schema : Schema) (type : TypeDef) (hs : cache.get? header.endpoint = some schema)
      (ht : schema.type? header.typeName = some type)
      (hk : ¬ (type.kind = .object ↔ isObject = true)) :
      Finds cache isObject header (.stale (.kindMismatch header.typeName isObject type.kind))
        (.stale (.kindMismatch header.typeName isObject type.kind)) header.typeDescription
  /-- Only an object block has suggestions, those that its type has now. -/
  | fitting (schema : Schema) (type : TypeDef) (hs : cache.get? header.endpoint = some schema)
      (ht : schema.type? header.typeName = some type)
      (hk : type.kind = .object ↔ isObject = true) :
      Finds cache isObject header
        (.bound (if isObject then type.templates header.endpoint else [])) .bound type.description

section

variable (cache : SchemaCache) (isObject : Bool) (header : Header)

/-- Every check finds one of the four, and changes the header accordingly. -/
theorem finds_revalidateHeader :
    ∃ state typeDescription,
      cache.Finds isObject header (cache.revalidateHeader isObject header).1
          state typeDescription ∧
        (cache.revalidateHeader isObject header).2 = { header with state, typeDescription } := by
  cases hs : cache.get? header.endpoint with
  | none =>
    rw [cache.revalidateHeader_unknown isObject header hs]
    exact ⟨_, _, .unknown hs, rfl⟩
  | some schema =>
    simp only [revalidateHeader, hs, Schema.typeOf]
    cases ht : schema.type? header.typeName with
    | none => exact ⟨_, _, .removed schema hs ht, rfl⟩
    | some type =>
      have hfits : decide (type.kind = .object) = isObject ↔
          (type.kind = .object ↔ isObject = true) := by
        cases isObject <;> simp
      by_cases hk : decide (type.kind = .object) = isObject
      · simp only [if_pos hk]
        exact ⟨_, _, .fitting schema type hs ht (hfits.mp hk), rfl⟩
      · simp only [if_neg hk]
        exact ⟨_, _, .mismatched schema type hs ht fun h => hk (hfits.mpr h), rfl⟩

end

section

variable {cache : SchemaCache} {isObject : Bool} {header : Header}
variable {result other : Revalidation} {state otherState : BlockState}
variable {typeDescription otherDescription : Option String}

theorem Finds.unique (h : cache.Finds isObject header result state typeDescription)
    (ho : cache.Finds isObject header other otherState otherDescription) :
    other = result ∧ otherState = state ∧ otherDescription = typeDescription := by
  cases h <;> cases ho <;> simp_all

/-- Once a header has what a check gave it, a check finds the same. -/
theorem Finds.again (h : cache.Finds isObject header result state typeDescription) :
    cache.Finds isObject { header with state, typeDescription } result state typeDescription := by
  cases h with
  | unknown hs => exact .unknown hs
  | removed schema hs ht =>
    refine .removed schema ?_ ?_
    · exact hs
    · exact ht
  | mismatched schema type hs ht hk =>
    refine .mismatched schema type ?_ ?_ hk
    · exact hs
    · exact ht
  | fitting schema type hs ht hk =>
    refine .fitting schema type ?_ ?_ hk
    · exact hs
    · exact ht

end

/-- A check of what a check left finds the same and leaves it as it is. -/
theorem revalidateHeader_again (cache : SchemaCache) (isObject : Bool) (header : Header) :
    cache.revalidateHeader isObject (cache.revalidateHeader isObject header).2 =
      cache.revalidateHeader isObject header := by
  obtain ⟨state, typeDescription, hfirst, hchanged⟩ :=
    cache.finds_revalidateHeader isObject header
  obtain ⟨other, otherDescription, hsecond, hagain⟩ :=
    cache.finds_revalidateHeader isObject { header with state, typeDescription }
  obtain ⟨hresult, rfl, rfl⟩ := hfirst.again.unique hsecond
  apply Prod.ext
  · rw [hchanged, hresult]
  · rw [hchanged, hagain]

theorem revalidate_again (cache : SchemaCache) (block : Block) :
    cache.revalidate (cache.revalidate block).2 = cache.revalidate block := by
  cases block with
  | scalar header =>
    exact congrArg (fun found : Revalidation × Header => (found.1, Block.scalar found.2))
      (cache.revalidateHeader_again false header)
  | object header slots =>
    exact congrArg (fun found : Revalidation × Header => (found.1, Block.object found.2 slots))
      (cache.revalidateHeader_again true header)

section

variable (cache : SchemaCache) (endpoint : String) (workspace : Workspace)

theorem passHeader_again (isObject : Bool) (header : Header) :
    cache.passHeader endpoint isObject (cache.passHeader endpoint isObject header) =
      cache.passHeader endpoint isObject header := by
  by_cases h : header.endpoint = endpoint
  · have hp : cache.passHeader endpoint isObject header =
        (cache.revalidateHeader isObject header).2 := if_pos h
    have he := cache.endpoint_passHeader endpoint isObject header
    rw [hp] at he ⊢
    rw [passHeader, if_pos (he.trans h), revalidateHeader_again]
  · rw [cache.passHeader_elsewhere endpoint isObject header h,
      cache.passHeader_elsewhere endpoint isObject header h]

theorem roots_again :
    (cache.syncEndpoint endpoint (cache.syncEndpoint endpoint workspace).2).2.roots =
      (cache.syncEndpoint endpoint workspace).2.roots := by
  rw [roots_pass, roots_pass, List.map_map]
  apply List.map_congr_left
  intro root _
  rw [Function.comp_apply, Block.mapHeaders_mapHeaders]
  exact congrArg (Block.mapHeaders · root)
    (funext fun isObject => funext (cache.passHeader_again endpoint isObject))

/-- A second pass delivers to each block what the first one did. -/
theorem resultsFor_again :
    cache.resultsFor endpoint (cache.syncEndpoint endpoint workspace).2.roots =
      cache.resultsFor endpoint workspace.roots := by
  rw [resultsFor_eq, resultsFor_eq, liveBlocks_pass, List.map_map]
  apply List.map_congr_left
  intro block hb
  have he := endpoint_of_mem_liveBlocks endpoint workspace block hb
  have hh : (block.mapHeaders (cache.passHeader endpoint)).header =
      (cache.revalidateHeader block.isObject block.header).2 := by
    rw [Block.header_mapHeaders, passHeader, if_pos he]
  rw [Function.comp_apply, id_pass, revalidate, hh, Block.isObject_mapHeaders,
    revalidateHeader_again]
  rfl

theorem lastResult?_again (id : BlockId) :
    (cache.syncEndpoint endpoint (cache.syncEndpoint endpoint workspace).2).2.lastResult? id =
      (cache.syncEndpoint endpoint workspace).2.lastResult? id := by
  rw [lastResult?_pass, resultsFor_again, lastResult?_pass]
  cases ((cache.resultsFor endpoint workspace.roots).filter fun entry =>
    entry.1 = id).getLast? <;> rfl

end

end SchemaCache

/-- An edit that does nothing more the second time can be made again where it was made. -/
theorem Block.editPath?_again {ρ : Type} (f : Block → ρ × Block) (hf : ∀ b, f (f b).2 = f b)
    (path : List Nat) (block after : Block) (result : ρ)
    (h : editPath? f path block = some (result, after)) :
    editPath? f path after = some (result, after) := by
  induction path generalizing block after with
  | nil =>
    have he : f block = (result, after) := Option.some.inj h
    have ha := hf block
    rw [he] at ha
    exact congrArg some ha
  | cons index path ih =>
    obtain ⟨header, slots, child, edited, rfl, hc, he, rfl⟩ :=
      editPath?_cons f index path block after result h
    have hl : index < slots.length := (List.getElem?_eq_some_iff.mp hc).choose
    have hafter : (Block.object header (slots.set index (some edited))).child? index =
        some edited := (child?_eq_some_iff _ index edited).mpr (List.getElem?_set_self hl)
    rw [editPath?, hafter, Option.bind_eq_bind, Option.bind_some, ih child edited he]
    change some (result, Block.object header ((slots.set index _).set index _)) = _
    rw [List.set_set]

namespace Upkeep

theorem checkAt_again (cache : SchemaCache) (path : List Nat) (tree : Block) :
    checkAt cache path (checkAt cache path tree) = checkAt cache path tree := by
  cases h : Block.editPath? cache.revalidate path tree with
  | none =>
    have hc : checkAt cache path tree = tree := by rw [checkAt, h]; rfl
    rw [hc, hc]
  | some edited =>
    have hc : checkAt cache path tree = edited.2 := by rw [checkAt, h]; rfl
    have hagain := Block.editPath?_again cache.revalidate cache.revalidate_again path tree
      edited.2 edited.1 h
    rw [hc, checkAt, hagain]
    rfl

/-- In a session, a second check of the block at a place changes nothing at all. -/
theorem checkedAt_again (s : State) (root : Nat) (path : List Nat) :
    perform (perform s (.checkedAt root path)) (.checkedAt root path) =
      perform s (.checkedAt root path) := by
  have hroots : (s.workspace.roots.modify root (checkAt s.cache path)).modify root
      (checkAt s.cache path) = s.workspace.roots.modify root (checkAt s.cache path) := by
    rw [List.modify_modify_eq]
    exact congrArg (s.workspace.roots.modify root) (funext (checkAt_again s.cache path))
  rw [perform, perform, hroots]

end Upkeep

open Upkeep (State perform)

structure Repeated (endpoint : String) (start : Workspace) (first second : SyncReport × Workspace) :
    Prop where
  report : second.1 = first.1
  forest : second.2.roots = first.2.roots
  results : ∀ id, second.2.lastResult? id = first.2.lastResult? id
  /-- Each pass logs the blocks of its endpoint. -/
  log : ∃ events, events = (start.idsOf endpoint).map SurfaceEvent.revalidated ∧
    first.2.events = start.events ++ events ∧ second.2.events = first.2.events ++ events

theorem SchemaCache.repeated_syncEndpoint (cache : SchemaCache) (endpoint : String)
    (workspace : Workspace) :
    Repeated endpoint workspace (cache.syncEndpoint endpoint workspace)
      (cache.syncEndpoint endpoint (cache.syncEndpoint endpoint workspace).2) where
  report := congrArg (SyncReport.ofResults endpoint) (cache.resultsFor_again endpoint workspace)
  forest := cache.roots_again endpoint workspace
  results := cache.lastResult?_again endpoint workspace
  log := by
    refine ⟨_, rfl, cache.events_pass endpoint workspace, ?_⟩
    rw [events_pass, idsOf_pass]

/-- A check finds one of four things and changes no more of the block than the state and the
description of the type; a second one finds the same and changes nothing. In a session a check
leaves the cache, and a second one at the same place leaves the whole session. A second pass over
an endpoint reports and delivers the same as the first, leaves every block, and logs the same
blocks once more. -/
theorem revalidation_idempotent :
    (∀ (cache : SchemaCache) (block : Block), ∃ result state typeDescription,
      cache.Finds block.isObject block.header result state typeDescription ∧
        cache.revalidate block =
          (result, block.mapHeader fun header => { header with state, typeDescription }) ∧
        cache.revalidate (cache.revalidate block).2 = cache.revalidate block) ∧
    (∀ (s : State) (root : Nat) (path : List Nat),
      (perform s (.checkedAt root path)).cache = s.cache ∧
        perform (perform s (.checkedAt root path)) (.checkedAt root path) =
          perform s (.checkedAt root path)) ∧
    ∀ (cache : SchemaCache) (endpoint : String) (workspace : Workspace),
      Repeated endpoint workspace (cache.syncEndpoint endpoint workspace)
        (cache.syncEndpoint endpoint (cache.syncEndpoint endpoint workspace).2) := by
  refine ⟨?_, ?_, SchemaCache.repeated_syncEndpoint⟩
  · intro cache block
    obtain ⟨state, typeDescription, hfinds, hchanged⟩ :=
      cache.finds_revalidateHeader block.isObject block.header
    refine ⟨_, state, typeDescription, hfinds, ?_, cache.revalidate_again block⟩
    apply Prod.ext
    · rfl
    · cases block with
      | scalar header => exact congrArg Block.scalar hchanged
      | object header slots => exact congrArg (Block.object · slots) hchanged
  · intro s root path
    exact ⟨rfl, Upkeep.checkedAt_again s root path⟩

end QueryBlocks
