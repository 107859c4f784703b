import QueryBlocks.Proofs.Block.Places
import QueryBlocks.Proofs.Workspace.Synchronisation

/-!
# What a pass does

A pass checks the blocks of its endpoint, wherever in the forest they stand, each once and in
order, and touches no other block. Its deliveries, the log and the counts of its report all
tell of the same blocks.
-/

set_option autoImplicit false

namespace QueryBlocks

/-- The state that a result stands for; a block that could not be checked keeps its own. -/
def Revalidation.state? : Revalidation → Option BlockState
  | .noSchema => none
  | .stale condition => some (.stale condition)
  | .bound _ => some .bound

def BlockState.isStale : BlockState → Bool
  | .stale _ => true
  | _ => false

namespace SyncReport

def ofStates (endpoint : String) (states : List (Option BlockState)) : SyncReport :=
  { endpoint
    bound := states.count (some .bound)
    stale := states.countP fun state => state.any BlockState.isStale
    unbound := states.count none }

theorem foldl_count (results : List Revalidation) (report : SyncReport) :
    results.foldl count report =
      { report with
        bound := report.bound + (results.map Revalidation.state?).count (some .bound)
        stale := report.stale +
          (results.map Revalidation.state?).countP fun state => state.any BlockState.isStale
        unbound := report.unbound + (results.map Revalidation.state?).count none } := by
  induction results generalizing report with
  | nil => rfl
  | cons result results ih =>
    rw [List.foldl_cons, ih]
    cases result <;>
      simp [count, Revalidation.state?, BlockState.isStale, List.countP_cons] <;> omega

/-- A report counts the states that the results stand for. -/
theorem ofResults_eq (endpoint : String) (results : List (BlockId × Revalidation)) :
    ofResults endpoint results =
      ofStates endpoint (results.map fun entry => entry.2.state?) := by
  simp [ofResults, ofStates, foldl_count, Function.comp_def]

theorem visited_ofResults (endpoint : String) (results : List (BlockId × Revalidation)) :
    (ofResults endpoint results).visited = results.length := by
  rw [ofResults_eq, ofStates, visited]
  induction results with
  | nil => rfl
  | cons entry results ih =>
    rw [List.map_cons, List.length_cons]
    cases h : entry.2 <;>
      simp [Revalidation.state?, BlockState.isStale, List.countP_cons] at ih ⊢ <;> omega

end SyncReport

namespace Workspace

theorem events_deliver (results : List (BlockId × Revalidation)) (workspace : Workspace) :
    (results.foldl (fun w entry => w.deliver entry.1 entry.2) workspace).events =
      workspace.events ++ results.map fun entry => .revalidated entry.1 := by
  induction results generalizing workspace with
  | nil => simp
  | cons entry results ih =>
    rw [List.foldl_cons, ih, List.map_cons]
    simp [deliver, record]

theorem results_deliver (results : List (BlockId × Revalidation)) (workspace : Workspace) :
    (results.foldl (fun w entry => w.deliver entry.1 entry.2) workspace).results =
      results.reverse ++ workspace.results := by
  induction results generalizing workspace with
  | nil => rfl
  | cons entry results ih =>
    rw [List.foldl_cons, ih, List.reverse_cons]
    simp [deliver, record]

/-- Of several deliveries for a block the last one counts. -/
theorem lastResult?_deliver (results : List (BlockId × Revalidation)) (workspace : Workspace)
    (id : BlockId) :
    (results.foldl (fun w entry => w.deliver entry.1 entry.2) workspace).lastResult? id =
      ((results.filter fun entry => entry.1 = id).getLast?.map Prod.snd).or
        (workspace.lastResult? id) := by
  rw [lastResult?, lastResult?, results_deliver, List.find?_append, ← List.head?_filter,
    List.filter_reverse, List.head?_reverse]
  cases (results.filter fun entry => entry.1 = id).getLast? <;> rfl

end Workspace

namespace SchemaCache

theorem passHeader_frame (cache : SchemaCache) (endpoint : String) (isObject : Bool)
    (header : Header) :
    ∃ state typeDescription, cache.passHeader endpoint isObject header =
      { header with state, typeDescription } := by
  unfold passHeader
  split
  · exact cache.revalidateHeader_frame isObject header
  · exact ⟨_, _, rfl⟩

theorem liveBlocks_pass (cache : SchemaCache) (endpoint other : String) (workspace : Workspace) :
    (cache.syncEndpoint endpoint workspace).2.liveBlocks other =
      (workspace.liveBlocks other).map (Block.mapHeaders (cache.passHeader endpoint)) := by
  rw [Workspace.liveBlocks, Workspace.blocks, roots_pass, Block.preorder_mapHeaders_forest,
    List.filter_map, Workspace.liveBlocks, Workspace.blocks]
  congr 1
  apply List.filter_congr
  intro block _
  obtain ⟨state, typeDescription, h⟩ :=
    cache.passHeader_frame endpoint block.isObject block.header
  simp [Block.endpoint, Block.header_mapHeaders, h]

theorem state?_revalidateHeader (cache : SchemaCache) (schema : Schema) (isObject : Bool)
    (header : Header) (h : cache.get? header.endpoint = some schema) :
    (cache.revalidateHeader isObject header).1.state? =
      some (cache.revalidateHeader isObject header).2.state := by
  simp only [revalidateHeader, h]
  cases schema.typeOf isObject header <;> rfl

theorem revalidateHeader_unknown (cache : SchemaCache) (isObject : Bool) (header : Header)
    (h : cache.get? header.endpoint = none) :
    cache.revalidateHeader isObject header = (.noSchema, header) := by
  simp only [revalidateHeader, h]

theorem endpoint_of_mem_liveBlocks (endpoint : String) (workspace : Workspace) (block : Block)
    (h : block ∈ workspace.liveBlocks endpoint) : block.header.endpoint = endpoint :=
  beq_iff_eq.mp (List.mem_filter.mp h).2

/-- Where the cache has a schema, the results of a pass stand for the states that it leaves. -/
theorem states_pass (cache : SchemaCache) (endpoint : String) (workspace : Workspace)
    (schema : Schema) (h : cache.get? endpoint = some schema) :
    (workspace.liveBlocks endpoint).map (fun block => (cache.revalidate block).1.state?) =
      ((cache.syncEndpoint endpoint workspace).2.liveBlocks endpoint).map fun block =>
        some block.header.state := by
  rw [liveBlocks_pass, List.map_map]
  apply List.map_congr_left
  intro block hb
  have he := endpoint_of_mem_liveBlocks endpoint workspace block hb
  rw [Function.comp_apply, Block.header_mapHeaders, passHeader, if_pos he]
  exact cache.state?_revalidateHeader schema block.isObject block.header (he ▸ h)

theorem states_pass_unknown (cache : SchemaCache) (endpoint : String) (workspace : Workspace)
    (h : cache.get? endpoint = none) :
    (workspace.liveBlocks endpoint).map (fun block => (cache.revalidate block).1.state?) =
      (workspace.liveBlocks endpoint).map fun _ => none := by
  apply List.map_congr_left
  intro block hb
  have he := endpoint_of_mem_liveBlocks endpoint workspace block hb
  rw [revalidate, cache.revalidateHeader_unknown block.isObject block.header (he ▸ h)]
  rfl

theorem roots_pass_unknown (cache : SchemaCache) (endpoint : String) (workspace : Workspace)
    (h : cache.get? endpoint = none) :
    (cache.syncEndpoint endpoint workspace).2.roots = workspace.roots := by
  have hid : cache.passHeader endpoint = fun _ header => header := by
    funext isObject header
    unfold passHeader
    split
    · rw [cache.revalidateHeader_unknown isObject header (by simp_all)]
    · rfl
  rw [roots_pass, hid, funext Block.mapHeaders_id, List.map_id']

/-- The report counts the states that the results stand for. -/
theorem report_pass (cache : SchemaCache) (endpoint : String) (workspace : Workspace) :
    (cache.syncEndpoint endpoint workspace).1 =
      SyncReport.ofStates endpoint
        ((workspace.liveBlocks endpoint).map fun block => (cache.revalidate block).1.state?) := by
  rw [syncEndpoint, SyncReport.ofResults_eq, resultsFor_eq, List.map_map]
  rfl

theorem report_known (cache : SchemaCache) (endpoint : String) (workspace : Workspace)
    (schema : Schema) (h : cache.get? endpoint = some schema) :
    (cache.syncEndpoint endpoint workspace).1 =
      SyncReport.ofStates endpoint
        (((cache.syncEndpoint endpoint workspace).2.liveBlocks endpoint).map fun block =>
          some block.header.state) := by
  rw [report_pass, states_pass cache endpoint workspace schema h]

end SchemaCache

/-- What a pass may do to a workspace, and what it reports, if it comes to the given blocks. -/
structure IsPass (cache : SchemaCache) (endpoint : String) (before : Workspace)
    (visits : List Placed) (report : SyncReport) (after : Workspace) : Prop where
  /-- At every place, a block of the endpoint becomes what a check makes of it, and any other
  block stays what it is; no slot is filled, emptied, added or taken out. -/
  places : ∀ root path, (after.blockAt? root path).map Block.own =
    (before.blockAt? root path).map fun block =>
      if block.endpoint = endpoint then (cache.revalidate block).2.own else block.own
  /-- A check changes no more than the state and the description of the type. -/
  kept : ∀ root path block checked, before.blockAt? root path = some block →
    after.blockAt? root path = some checked →
      ∃ state typeDescription,
        checked.own = ({ block.header with state, typeDescription }, block.own.2)
  /-- The pass comes to every place where a block of the endpoint stands, and to no other. -/
  complete : ∀ root path block, { root, path, block } ∈ visits ↔
    before.blockAt? root path = some block ∧ block.endpoint = endpoint
  /-- It comes to them in pre-order, and to none of them twice. -/
  ordered : visits.Pairwise Placed.Before
  log : after.events =
    before.events ++ visits.map fun visit => .revalidated visit.block.id
  results : ∀ id, after.lastResult? id =
    ((visits.filter fun visit => visit.block.id = id).getLast?.map fun visit =>
      (cache.revalidate visit.block).1).or (before.lastResult? id)
  total : report.bound + report.stale + report.unbound = visits.length
  known : ∀ schema, cache.get? endpoint = some schema →
    report.unbound = 0 ∧
    report.bound = (visits.countP fun visit =>
      (after.blockAt? visit.root visit.path).any fun block => block.header.state == .bound) ∧
    report.stale = visits.countP fun visit =>
      (after.blockAt? visit.root visit.path).any fun block => block.header.state.isStale
  unknown : cache.get? endpoint = none →
    report.bound = 0 ∧ report.stale = 0 ∧ after.roots = before.roots

def Workspace.livePlaces (workspace : Workspace) (endpoint : String) : List Placed :=
  workspace.placed.filter fun visit => visit.block.endpoint == endpoint

theorem Workspace.map_block_livePlaces (workspace : Workspace) (endpoint : String) :
    (workspace.livePlaces endpoint).map Placed.block = workspace.liveBlocks endpoint := by
  rw [liveBlocks, ← map_block_placed, List.filter_map]
  rfl

theorem Workspace.mem_livePlaces (workspace : Workspace) (endpoint : String) (root : Nat)
    (path : List Nat) (block : Block) :
    { root, path, block } ∈ workspace.livePlaces endpoint ↔
      workspace.blockAt? root path = some block ∧ block.endpoint = endpoint := by
  rw [livePlaces, List.mem_filter, mem_placed, beq_iff_eq]

namespace SchemaCache

theorem places_pass (cache : SchemaCache) (endpoint : String) (workspace : Workspace)
    (root : Nat) (path : List Nat) :
    (cache.syncEndpoint endpoint workspace).2.blockAt? root path =
      (workspace.blockAt? root path).map (Block.mapHeaders (cache.passHeader endpoint)) :=
  Workspace.blockAt?_mapHeaders _ _ _ (cache.roots_pass endpoint workspace) root path

theorem own_pass (cache : SchemaCache) (endpoint : String) (block : Block) :
    (block.mapHeaders (cache.passHeader endpoint)).own =
      if block.endpoint = endpoint then (cache.revalidate block).2.own else block.own := by
  rw [Block.own_mapHeaders, passHeader]
  by_cases h : block.header.endpoint = endpoint
  · rw [if_pos h, if_pos (show block.endpoint = endpoint from h), revalidate, Block.own_mapHeader]
  · rw [if_neg h, if_neg (show ¬ block.endpoint = endpoint from h)]
    cases block <;> rfl

theorem log_pass (cache : SchemaCache) (endpoint : String) (workspace : Workspace) :
    (cache.syncEndpoint endpoint workspace).2.events =
      workspace.events ++ (workspace.liveBlocks endpoint).map fun block => .revalidated block.id := by
  rw [syncEndpoint, Workspace.events_deliver, resultsFor_eq, List.map_map]
  rfl

theorem lastResult?_pass (cache : SchemaCache) (endpoint : String) (workspace : Workspace)
    (id : BlockId) :
    (cache.syncEndpoint endpoint workspace).2.lastResult? id =
      (((cache.resultsFor endpoint workspace.roots).filter fun entry =>
        entry.1 = id).getLast?.map Prod.snd).or (workspace.lastResult? id) :=
  Workspace.lastResult?_deliver _ _ id

theorem visited_pass (cache : SchemaCache) (endpoint : String) (workspace : Workspace) :
    (cache.syncEndpoint endpoint workspace).1.visited =
      (workspace.liveBlocks endpoint).length := by
  rw [syncEndpoint, SyncReport.visited_ofResults, resultsFor_eq, List.length_map]

/-- A block that a pass came to is counted by what stands in its place afterwards. -/
theorem countP_livePlaces (cache : SchemaCache) (endpoint : String) (workspace : Workspace)
    (p : Block → Bool) :
    ((workspace.livePlaces endpoint).countP fun visit =>
        ((cache.syncEndpoint endpoint workspace).2.blockAt? visit.root visit.path).any p) =
      ((cache.syncEndpoint endpoint workspace).2.liveBlocks endpoint).countP p := by
  rw [liveBlocks_pass, ← Workspace.map_block_livePlaces, List.map_map, List.countP_map]
  apply List.countP_congr
  rintro ⟨root, path, block⟩ hm
  rw [places_pass, ((workspace.mem_livePlaces endpoint root path block).mp hm).1]
  rfl

/-- A pass checks every block of its endpoint once, in order, and leaves every other block as
it is; the log, the last results and the report tell of exactly those blocks. -/
theorem isPass_syncEndpoint (cache : SchemaCache) (endpoint : String) (workspace : Workspace) :
    ∃ visits, IsPass cache endpoint workspace visits (cache.syncEndpoint endpoint workspace).1
      (cache.syncEndpoint endpoint workspace).2 := by
  have hlive := workspace.map_block_livePlaces endpoint
  exact ⟨workspace.livePlaces endpoint,
    { places := fun root path => by
        rw [places_pass, Option.map_map]
        exact congrArg (fun g => Option.map g (workspace.blockAt? root path))
          (funext (cache.own_pass endpoint))
      kept := fun root path block checked hb hc => by
        rw [places_pass, hb, Option.map_some, Option.some.injEq] at hc
        obtain ⟨state, typeDescription, h⟩ :=
          cache.passHeader_frame endpoint block.isObject block.header
        exact ⟨state, typeDescription, by rw [← hc, Block.own_mapHeaders, h]⟩
      complete := workspace.mem_livePlaces endpoint
      ordered := workspace.pairwise_placed.filter _
      log := by
        rw [log_pass, ← hlive, List.map_map]
        rfl
      results := fun id => by
        rw [lastResult?_pass, resultsFor_eq, ← hlive, List.map_map, List.filter_map,
          List.getLast?_map, Option.map_map]
        rfl
      total := by
        rw [← List.length_map, hlive]
        exact cache.visited_pass endpoint workspace
      known := fun schema h => by
        rw [countP_livePlaces, countP_livePlaces, cache.report_known endpoint workspace schema h,
          SyncReport.ofStates]
        simp [List.count, List.countP_map, Function.comp_def]
      unknown := fun h => by
        refine ⟨?_, ?_, cache.roots_pass_unknown endpoint workspace h⟩
        · rw [report_pass, states_pass_unknown cache endpoint workspace h, SyncReport.ofStates]
          simp [List.count_eq_zero]
        · rw [report_pass, states_pass_unknown cache endpoint workspace h, SyncReport.ofStates]
          simp }⟩

def berrySchema : Schema :=
  { queryType := "Query"
    mutationType := none
    types :=
      { entries :=
          [("Berry", { name := "Berry", kind := .object, fields := [], description := none }),
           ("Int", { name := "Int", kind := .scalar, fields := [], description := some "Whole" })]
        distinct := by decide } }

def berryCache : SchemaCache := SchemaCache.empty.insert "https://berry.example" berrySchema

/-- Blocks of one endpoint at the top, behind an empty slot and below a block of another endpoint;
two of them share an identity, and one has lost its type. -/
def berryDesk : Workspace :=
  { Workspace.empty with
    roots :=
      [.object (.fresh { number := 1 } "https://berry.example" "berry" "Berry")
        [none, some (.object (.fresh { number := 2 } "https://sea.example" "shore" "Shore")
          [some (.scalar (.fresh { number := 3 } "https://berry.example" "size" "Int"))])],
       .scalar (.fresh { number := 3 } "https://berry.example" "seed" "Seed")] }

theorem isPass_berryDesk :
    ∃ visits after,
      IsPass berryCache "https://berry.example" berryDesk visits
        { endpoint := "https://berry.example", bound := 2, stale := 1, unbound := 0 } after ∧
      visits.length = 3 ∧
      after.events = [.revalidated { number := 1 }, .revalidated { number := 3 },
        .revalidated { number := 3 }] ∧
      after.lastResult? { number := 3 } =
        some (.stale (.typeRemoved "https://berry.example" "Seed")) ∧
      (after.blockAt? 0 [1, 0]).map (fun block => block.header.state) = some .bound ∧
      (after.blockAt? 0 [1]).map (fun block => block.header.state) = some .unbound := by
  obtain ⟨visits, h⟩ := berryCache.isPass_syncEndpoint "https://berry.example" berryDesk
  exact ⟨visits, _, h, h.total.symm, rfl, rfl, rfl, rfl⟩

end SchemaCache

end QueryBlocks
