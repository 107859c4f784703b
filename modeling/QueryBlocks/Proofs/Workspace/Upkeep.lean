import QueryBlocks.Proofs.Block.Edits
import QueryBlocks.Proofs.Workspace.Pass

/-!
# Keeping a workspace up to date

Schemas come and go, and blocks are checked one by one or in passes, in any order and any
number of times. All that can change in the forest is the state of a block and the description
of its type.
-/

set_option autoImplicit false

namespace QueryBlocks

def Header.lasting (header : Header) : Header :=
  { header with state := .unbound, typeDescription := none }

def Block.lasting (block : Block) : Block := block.mapHeaders fun _ header => header.lasting

namespace SchemaCache

theorem lasting_revalidateHeader (cache : SchemaCache) (isObject : Bool) (header : Header) :
    (cache.revalidateHeader isObject header).2.lasting = header.lasting := by
  obtain ⟨state, typeDescription, h⟩ := cache.revalidateHeader_frame isObject header
  rw [h]
  rfl

theorem lasting_passHeader (cache : SchemaCache) (endpoint : String) (isObject : Bool)
    (header : Header) :
    (cache.passHeader endpoint isObject header).lasting = header.lasting := by
  obtain ⟨state, typeDescription, h⟩ := cache.passHeader_frame endpoint isObject header
  rw [h]
  rfl

/-- A check leaves the tree below the block alone, and all of the block that lasts. -/
theorem lasting_revalidate (cache : SchemaCache) (block : Block) :
    (cache.revalidate block).2.lasting = block.lasting := by
  cases block with
  | scalar header => exact congrArg Block.scalar (cache.lasting_revalidateHeader false header)
  | object header slots =>
    exact congrArg (Block.object · (Block.mapHeadersSlots _ slots))
      (cache.lasting_revalidateHeader true header)

end SchemaCache

namespace Upkeep

structure State where
  cache : SchemaCache
  workspace : Workspace

inductive Event where
  | inserted (endpoint : String) (schema : Schema)
  | removed (endpoint : String)
  | loaded (endpoint : String) (answer : Answer)
  /-- A check of the first block of an identity. -/
  | checked (id : BlockId)
  /-- A check of the block at a place. -/
  | checkedAt (root : Nat) (path : List Nat)
  | synced (endpoint : String)
  | applied (endpoint : String) (outcome : FetchOutcome)
  | refreshed (endpoint : String) (answer : Answer)

def checkAt (cache : SchemaCache) (path : List Nat) (tree : Block) : Block :=
  ((Block.editPath? cache.revalidate path tree).map Prod.snd).getD tree

def perform (s : State) : Event → State
  | .inserted endpoint schema => { s with cache := s.cache.insert endpoint schema }
  | .removed endpoint => { s with cache := s.cache.remove endpoint }
  | .loaded endpoint answer => { s with cache := (s.cache.load endpoint answer).2 }
  | .checked id =>
    { s with
      workspace := ((s.workspace.mutate? id s.cache.revalidate).map Prod.snd).getD s.workspace }
  | .checkedAt root path =>
    { s with
      workspace :=
        { s.workspace with roots := s.workspace.roots.modify root (checkAt s.cache path) } }
  | .synced endpoint => { s with workspace := (s.cache.syncEndpoint endpoint s.workspace).2 }
  | .applied endpoint outcome =>
    { s with workspace := (s.cache.apply endpoint outcome s.workspace).2 }
  | .refreshed endpoint answer =>
    let (_, cache, workspace) := s.cache.refresh endpoint answer s.workspace
    { cache, workspace }

def run (events : List Event) (s : State) : State := events.foldl perform s

/-- Two forests that differ at most in what checks may change. -/
def Lasts (before after : List Block) : Prop := after.map Block.lasting = before.map Block.lasting

theorem lasts_checkAt (cache : SchemaCache) (root : Nat) (path : List Nat)
    (forest : List Block) : Lasts forest (forest.modify root (checkAt cache path)) := by
  have hc (tree : Block) : (checkAt cache path tree).lasting = tree.lasting := by
    unfold checkAt
    cases h : Block.editPath? cache.revalidate path tree with
    | none => rfl
    | some edited =>
      exact Block.mapHeaders_editPath? _ _ cache.lasting_revalidate path tree edited.2 edited.1 h
  apply List.ext_getElem?
  intro i
  rw [List.getElem?_map, List.getElem?_map, List.getElem?_modify]
  cases forest[i]? with
  | none => rfl
  | some tree => by_cases hi : root = i <;> simp [hi, hc]

theorem lasts_editRoots? (cache : SchemaCache) (id : BlockId) (before after : List Block)
    (result : Revalidation)
    (h : Workspace.editRoots? id cache.revalidate before = some (result, after)) :
    Lasts before after := by
  induction before generalizing after with
  | nil => cases h
  | cons root rest ih =>
    rw [Workspace.editRoots?] at h
    cases he : root.edit? id cache.revalidate with
    | some edited =>
      rw [he] at h
      cases h
      exact congrArg (· :: rest.map Block.lasting)
        (Block.mapHeaders_edit? _ _ cache.lasting_revalidate id root edited.2 edited.1 he)
    | none =>
      rw [he] at h
      obtain ⟨⟨r, edited⟩, hr, h⟩ := Option.map_eq_some_iff.mp h
      cases h
      exact congrArg (root.lasting :: ·) (ih edited hr)

theorem lasts_checked (cache : SchemaCache) (id : BlockId) (workspace : Workspace) :
    Lasts workspace.roots
      (((workspace.mutate? id cache.revalidate).map Prod.snd).getD workspace).roots := by
  unfold Workspace.mutate?
  cases h : Workspace.editRoots? id cache.revalidate workspace.roots with
  | none => rfl
  | some edited => exact lasts_editRoots? cache id workspace.roots edited.2 edited.1 h

theorem lasts_synced (cache : SchemaCache) (endpoint : String) (workspace : Workspace) :
    Lasts workspace.roots (cache.syncEndpoint endpoint workspace).2.roots := by
  rw [Lasts, cache.roots_pass, List.map_map]
  apply List.map_congr_left
  intro root _
  rw [Function.comp_apply, Block.lasting, Block.mapHeaders_mapHeaders]
  exact congrArg (Block.mapHeaders · root)
    (funext fun isObject => funext (cache.lasting_passHeader endpoint isObject))

theorem lasts_applied (cache : SchemaCache) (endpoint : String) (outcome : FetchOutcome)
    (workspace : Workspace) :
    Lasts workspace.roots (cache.apply endpoint outcome workspace).2.roots := by
  unfold SchemaCache.apply
  cases outcome with
  | loaded schema => exact lasts_synced cache endpoint workspace
  | transportFailed cause => rfl
  | schemaErrors cause => rfl

/-- One event leaves all of the forest that lasts. -/
theorem lasts_perform (s : State) (event : Event) :
    Lasts s.workspace.roots (perform s event).workspace.roots := by
  cases event with
  | inserted endpoint schema => rfl
  | removed endpoint => rfl
  | loaded endpoint answer => rfl
  | checked id => exact lasts_checked s.cache id s.workspace
  | checkedAt root path => exact lasts_checkAt s.cache root path s.workspace.roots
  | synced endpoint => exact lasts_synced s.cache endpoint s.workspace
  | applied endpoint outcome => exact lasts_applied s.cache endpoint outcome s.workspace
  | refreshed endpoint answer =>
    exact lasts_applied (s.cache.load endpoint answer).2 endpoint
      (s.cache.load endpoint answer).1 s.workspace

/-- A whole run leaves all of the forest that lasts. -/
theorem lasts_run (events : List Event) (s : State) :
    Lasts s.workspace.roots (run events s).workspace.roots := by
  induction events generalizing s with
  | nil => rfl
  | cons event events ih => exact (ih (perform s event)).trans (lasts_perform s event)

theorem blockAt?_lasts (before after : Workspace) (h : Lasts before.roots after.roots)
    (root : Nat) (path : List Nat) :
    (after.blockAt? root path).map Block.lasting =
      (before.blockAt? root path).map Block.lasting := by
  have hlasting (workspace : Workspace) :
      ({ workspace with roots := workspace.roots.map Block.lasting } : Workspace).blockAt?
          root path = (workspace.blockAt? root path).map Block.lasting :=
    Workspace.blockAt?_mapHeaders (fun _ header => header.lasting) workspace _ rfl root path
  rw [← hlasting after, ← hlasting before, Workspace.blockAt?, Workspace.blockAt?]
  exact congrArg (fun roots : List Block => roots[root]?.bind (Block.atPath? path)) h

end Upkeep

end QueryBlocks
