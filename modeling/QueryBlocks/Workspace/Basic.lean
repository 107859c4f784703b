import QueryBlocks.Block.Slots
import QueryBlocks.Workspace.Revalidation

/-!
# The workspace

The root blocks that are being edited, the revalidation results delivered for their blocks
and the log of what happened.
-/

set_option autoImplicit false

namespace QueryBlocks

inductive SurfaceEvent where
  | created (id : BlockId)
  | structureChanged (id : BlockId)
  | revalidated (id : BlockId)
deriving DecidableEq

/-- `results` holds the deliveries, the latest first. -/
structure Workspace where
  roots : List Block
  results : List (BlockId × Revalidation)
  events : List SurfaceEvent

namespace Workspace

def empty : Workspace := { roots := [], results := [], events := [] }

def record (workspace : Workspace) (event : SurfaceEvent) : Workspace :=
  { workspace with events := workspace.events ++ [event] }

def deliver (workspace : Workspace) (id : BlockId) (result : Revalidation) : Workspace :=
  { workspace with results := (id, result) :: workspace.results }.record (.revalidated id)

def lastResult? (workspace : Workspace) (id : BlockId) : Option Revalidation :=
  (workspace.results.find? fun entry => entry.1 = id).map Prod.snd

def addRoot (workspace : Workspace) (block : Block) : Workspace :=
  { workspace with roots := workspace.roots ++ [block] }.record (.created block.id)

def visitLive {σ : Type} (endpoint : String) (f : Bool → Header → StateM σ Header)
    (roots : List Block) : StateM σ (List Block) :=
  roots.mapM (Block.visit fun isObject header =>
    if header.endpoint == endpoint then f isObject header else return header)

def blocks (workspace : Workspace) : List Block := workspace.roots.flatMap Block.preorder

def liveBlocks (workspace : Workspace) (endpoint : String) : List Block :=
  workspace.blocks.filter fun block => block.endpoint == endpoint

def find? (workspace : Workspace) (id : BlockId) : Option Block :=
  workspace.roots.findSome? fun root => root.find? id

def editRoots? {ρ : Type} (id : BlockId) (f : Block → ρ × Block) :
    List Block → Option (ρ × List Block)
  | [] => none
  | root :: rest =>
    match root.edit? id f with
    | some (result, root) => some (result, root :: rest)
    | none => (editRoots? id f rest).map fun (result, rest) => (result, root :: rest)

/-- Edits a block and records that its structure changed, whatever the edit makes of it. -/
def mutate? {ρ : Type} (workspace : Workspace) (id : BlockId) (f : Block → ρ × Block) :
    Option (ρ × Workspace) :=
  (editRoots? id f workspace.roots).map fun (result, roots) =>
    (result, { workspace with roots }.record (.structureChanged id))

def takeEvents (workspace : Workspace) : List SurfaceEvent × Workspace :=
  (workspace.events, { workspace with events := [] })

end Workspace

def Block.attempt {ρ : Type} (edit : Block → Except SlotError (ρ × Block)) (block : Block) :
    Except SlotError ρ × Block :=
  match edit block with
  | .ok (result, block) => (.ok result, block)
  | .error cause => (.error cause, block)

end QueryBlocks
