import QueryBlocks.Proofs.Block.Likeness
import QueryBlocks.Proofs.Workspace.Pass

/-!
# Verdicts on alike trees

What a check finds depends on the endpoint, the type and the shape of a block. Alike trees
therefore get the same verdicts in the same order, and their blocks fit the same inputs.
-/

set_option autoImplicit false

namespace QueryBlocks

namespace Block

/-- Alike trees have alike blocks at every place. -/
theorem atPath?_alike (a b : Block) (h : a.Alike b) (path : List Nat) :
    (atPath? path a).map bare = (atPath? path b).map bare := by
  have hp := congrArg (atPath? path) h
  rwa [bare, bare, atPath?_mapHeaders, atPath?_mapHeaders] at hp

theorem outputCheck_bare (block : Block) :
    block.bare.header.outputCheck = block.header.outputCheck := by
  rw [bare, header_mapHeaders]
  rfl

theorem outputCheck_alike (a b : Block) (h : a.Alike b) (path : List Nat) :
    (atPath? path a).map (fun block => block.header.outputCheck) =
      (atPath? path b).map fun block => block.header.outputCheck := by
  have hp := congrArg (Option.map fun block => block.header.outputCheck) (atPath?_alike a b h path)
  rw [Option.map_map, Option.map_map] at hp
  simpa only [Function.comp_def, outputCheck_bare] using hp

end Block

namespace SchemaCache

variable (cache : SchemaCache) (endpoint : String)

theorem revalidateHeader_bare (isObject : Bool) (header : Header) :
    (cache.revalidateHeader isObject header.bare).1 =
      (cache.revalidateHeader isObject header).1 := by
  have he : header.bare.endpoint = header.endpoint := rfl
  unfold revalidateHeader
  rw [he]
  cases cache.get? header.endpoint with
  | none => rfl
  | some schema =>
    have ht : schema.typeOf isObject header.bare = schema.typeOf isObject header := rfl
    simp only [ht]
    cases schema.typeOf isObject header <;> rfl

theorem revalidate_bare (block : Block) :
    (cache.revalidate block.bare).1 = (cache.revalidate block).1 := by
  rw [revalidate, revalidate, Block.bare, Block.isObject_mapHeaders, Block.header_mapHeaders]
  exact cache.revalidateHeader_bare block.isObject block.header

def verdicts (forest : List Block) : List Revalidation :=
  (cache.resultsFor endpoint forest).map Prod.snd

theorem verdicts_eq (forest : List Block) :
    cache.verdicts endpoint forest =
      ((forest.flatMap Block.preorder).filter fun block => block.endpoint == endpoint).map
        fun block => (cache.revalidate block).1 := by
  rw [verdicts, resultsFor_forest, List.map_map]
  rfl

theorem verdicts_append (xs ys : List Block) :
    cache.verdicts endpoint (xs ++ ys) =
      cache.verdicts endpoint xs ++ cache.verdicts endpoint ys := by
  simp only [verdicts_eq, List.flatMap_append, List.filter_append, List.map_append]

theorem verdicts_bare (block : Block) :
    cache.verdicts endpoint [block.bare] = cache.verdicts endpoint [block] := by
  have he : (fun b : Block => b.bare.endpoint == endpoint) = fun b => b.endpoint == endpoint := by
    funext b
    rw [Block.endpoint, Block.bare, Block.header_mapHeaders]
    rfl
  have hpre : [block.bare].flatMap Block.preorder =
      ([block].flatMap Block.preorder).map Block.bare :=
    Block.preorder_mapHeaders_forest _ [block]
  rw [verdicts_eq, verdicts_eq, hpre, List.filter_map, List.map_map]
  simp only [Function.comp_def, he, revalidate_bare]

theorem verdicts_alike (a b : Block) (h : a.Alike b) :
    cache.verdicts endpoint [a] = cache.verdicts endpoint [b] := by
  rw [← cache.verdicts_bare endpoint a, ← cache.verdicts_bare endpoint b]
  exact congrArg (fun block => cache.verdicts endpoint [block]) h

/-- Whatever else is in the workspace: a pass counts and delivers the same verdicts, in the same
order, over either of two alike trees. -/
theorem syncEndpoint_alike (workspace : Workspace) (a b : Block) (h : a.Alike b) :
    (cache.syncEndpoint endpoint (workspace.addRoot a)).1 =
        (cache.syncEndpoint endpoint (workspace.addRoot b)).1 ∧
      (cache.syncEndpoint endpoint (workspace.addRoot a)).2.results.map Prod.snd =
        (cache.syncEndpoint endpoint (workspace.addRoot b)).2.results.map Prod.snd := by
  have hv : cache.verdicts endpoint (workspace.addRoot a).roots =
      cache.verdicts endpoint (workspace.addRoot b).roots := by
    change cache.verdicts endpoint (workspace.roots ++ [a]) =
      cache.verdicts endpoint (workspace.roots ++ [b])
    rw [verdicts_append, verdicts_append, cache.verdicts_alike endpoint a b h]
  have hr (root : Block) :
      (cache.syncEndpoint endpoint (workspace.addRoot root)).2.results.map Prod.snd =
        (cache.verdicts endpoint (workspace.addRoot root).roots).reverse ++
          workspace.results.map Prod.snd := by
    rw [syncEndpoint, Workspace.results_deliver, List.map_append, List.map_reverse]
    rfl
  refine ⟨?_, by rw [hr, hr, hv]⟩
  exact congrArg (fun verdicts : List Revalidation => verdicts.foldl SyncReport.count
    { endpoint, bound := 0, stale := 0, unbound := 0 }) hv

end SchemaCache

end QueryBlocks
