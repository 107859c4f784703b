import QueryBlocks.Block.Numbering
import QueryBlocks.Workspace.Basic

/-!
# Synchronising with schemas

A pass revalidates every block bound to an endpoint, each once and in order, and delivers
the results when all blocks are done. A refresh loads the endpoint's schema first; when that
fails, nothing changes.
-/

set_option autoImplicit false

namespace QueryBlocks

structure SyncReport where
  endpoint : String
  bound : Nat
  stale : Nat
  unbound : Nat
deriving DecidableEq

namespace SyncReport

def visited (report : SyncReport) : Nat := report.bound + report.stale + report.unbound

def count (report : SyncReport) : Revalidation → SyncReport
  | .noSchema => { report with unbound := report.unbound + 1 }
  | .stale _ => { report with stale := report.stale + 1 }
  | .bound _ => { report with bound := report.bound + 1 }

def ofResults (endpoint : String) (results : List (BlockId × Revalidation)) : SyncReport :=
  (results.map Prod.snd).foldl count { endpoint, bound := 0, stale := 0, unbound := 0 }

end SyncReport

namespace SchemaCache

/-- What a pass does where its walk comes: a block of the endpoint is revalidated, and the result
is kept until the walk is over. -/
def passVisit (cache : SchemaCache) (endpoint : String) (isObject : Bool) (header : Header) :
    StateM (List (BlockId × Revalidation)) Header :=
  if header.endpoint == endpoint then do
    let (result, checked) := cache.revalidateHeader isObject header
    modify fun results => results ++ [(header.id, result)]
    return checked
  else return header

/-- The walk of a pass: the forest that it leaves, and the results in the order of its visits. -/
def walk (cache : SchemaCache) (endpoint : String) (forest : List Block) :
    List Block × List (BlockId × Revalidation) :=
  (Workspace.visitLive endpoint (cache.passVisit endpoint) forest).run []

def resultsFor (cache : SchemaCache) (endpoint : String) (forest : List Block) :
    List (BlockId × Revalidation) :=
  (cache.walk endpoint forest).2

def revalidateForest (cache : SchemaCache) (endpoint : String) (forest : List Block) :
    List Block :=
  (cache.walk endpoint forest).1

def syncEndpoint (cache : SchemaCache) (endpoint : String) (workspace : Workspace) :
    SyncReport × Workspace :=
  let results := cache.resultsFor endpoint workspace.roots
  let walked := { workspace with roots := cache.revalidateForest endpoint workspace.roots }
  (SyncReport.ofResults endpoint results,
    results.foldl (fun workspace entry => workspace.deliver entry.1 entry.2) walked)

/-- Takes in the outcome of a load: a loaded schema starts a pass against the cache as it is
by then, a failure changes nothing. -/
def apply (cache : SchemaCache) (endpoint : String) (outcome : FetchOutcome)
    (workspace : Workspace) : Except CacheError SyncReport × Workspace :=
  match outcome.toExcept with
  | .error cause => (.error cause, workspace)
  | .ok _ =>
    let (report, workspace) := cache.syncEndpoint endpoint workspace
    (.ok report, workspace)

def refresh (cache : SchemaCache) (endpoint : String) (answer : Answer) (workspace : Workspace) :
    Except CacheError SyncReport × SchemaCache × Workspace :=
  let (outcome, cache) := cache.load endpoint answer
  let (result, workspace) := cache.apply endpoint outcome workspace
  (result, cache, workspace)

def newBlock (cache : SchemaCache) (template : Template) : Numbering (Revalidation × Block) := do
  return cache.revalidate (← Block.ofTemplate template)

def createBlock (cache : SchemaCache) (template : Template) (workspace : Workspace) :
    Numbering (Block × Workspace) := do
  let (result, block) ← cache.newBlock template
  return (block, (workspace.record (.created block.id)).deliver block.id result)

def newChild (cache : SchemaCache) (index : Nat) (template : Template) (parent : Block) :
    TryNumbering SlotError (Revalidation × Block × Block) := do
  let (_, widened) ← parent.addSlot index
  let (result, child) ← cache.newBlock template
  let (_, filled) ← widened.fillSlot index child
  return (result, child, filled)

def insertChild (cache : SchemaCache) (index : Nat) (template : Template) (parent : Block)
    (workspace : Workspace) : TryNumbering SlotError (BlockId × Block × Workspace) := do
  let (result, child, parent) ← cache.newChild index template parent
  let created := (workspace.record (.created child.id)).deliver child.id result
  return (child.id, parent, created.record (.structureChanged parent.id))

end SchemaCache

end QueryBlocks
