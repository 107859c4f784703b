import QueryBlocks.Workspace.Sync

/-!
# Checking a block tree

A tree is checked against the schema of its root's endpoint as the endpoint answers it now.
-/

set_option autoImplicit false

namespace QueryBlocks

structure StaleBlock where
  id : BlockId
  field : String
  condition : Condition

structure TreeCheck where
  tree : Block
  report : SyncReport
  stale : List StaleBlock

def Header.stale? (header : Header) : Option StaleBlock :=
  match header.state with
  | .stale condition => some { id := header.id, field := header.field, condition }
  | _ => none

def Block.stale? (block : Block) : Option StaleBlock := block.header.stale?

def TreeCheck.note (_ : Bool) (header : Header) : StateM (List StaleBlock) Header := do
  modify fun stale => stale ++ header.stale?.toList
  return header

def TreeCheck.ofAnswer (answer : Answer) (root : Block) : Except CacheError TreeCheck := do
  let endpoint := root.endpoint
  let (result, _, workspace) :=
    SchemaCache.empty.refresh endpoint answer (Workspace.empty.addRoot root)
  let report ← result
  let (_, stale) := (Workspace.visitLive endpoint TreeCheck.note workspace.roots).run []
  return { tree := (workspace.find? root.id).getD root, report, stale }

end QueryBlocks
