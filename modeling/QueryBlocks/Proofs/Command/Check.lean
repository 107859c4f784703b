import QueryBlocks.Proofs.Block.Loaded
import QueryBlocks.Proofs.Block.Persistence
import QueryBlocks.Proofs.Command.Compilation
import QueryBlocks.Proofs.Workspace.Independence

/-!
# Checking a tree

A check asks the endpoint of the root and holds the blocks of that endpoint against the schema it
answers. Blocks of other endpoints are passed over: they are as they were loaded, and neither the
count nor the warnings nor the line that the blocks match speaks of them.
-/

set_option autoImplicit false

namespace QueryBlocks

/-- The state that a schema asks for is never that of a block nobody has checked. -/
theorem Schema.stateOf_ne_unbound (schema : Schema) (isObject : Bool) (header : Header) :
    schema.stateOf isObject header ≠ .unbound := by
  unfold Schema.stateOf
  cases schema.typeOf isObject header <;> simp

namespace TreeCheck

def knownTo (schema : Schema) (root : Block) : SchemaCache :=
  SchemaCache.empty.insert root.endpoint schema

def pass (schema : Schema) (root : Block) : SyncReport × Workspace :=
  (knownTo schema root).syncEndpoint root.endpoint (Workspace.empty.addRoot root)

def against (schema : Schema) (root : Block) : Block :=
  root.mapHeaders ((knownTo schema root).passHeader root.endpoint)

def blocksOf (endpoint : String) (tree : Block) : List Block :=
  tree.preorder.filter fun block => block.endpoint == endpoint

section

variable (schema : Schema) (root : Block)

theorem roots_pass : (pass schema root).2.roots = [against schema root] :=
  (knownTo schema root).roots_pass root.endpoint (Workspace.empty.addRoot root)

theorem liveBlocks_pass :
    (pass schema root).2.liveBlocks root.endpoint =
      blocksOf root.endpoint (against schema root) := by
  rw [Workspace.liveBlocks, Workspace.blocks, roots_pass, List.flatMap_singleton, blocksOf]

theorem find?_pass : (pass schema root).2.find? root.id = some (against schema root) := by
  have hid : (against schema root).id = root.id := (knownTo schema root).id_pass root.endpoint root
  rw [Workspace.find?, roots_pass, List.findSome?_singleton, ← hid, Block.find?_own]

theorem report_pass :
    (pass schema root).1 = SyncReport.ofStates root.endpoint
      ((blocksOf root.endpoint (against schema root)).map fun block => some block.header.state) := by
  rw [← liveBlocks_pass]
  exact (knownTo schema root).report_known root.endpoint (Workspace.empty.addRoot root) schema
    (SchemaCache.empty.get?_insert_self root.endpoint schema)

theorem ofStates_blocks (endpoint : String) (blocks : List Block) :
    SyncReport.ofStates endpoint (blocks.map fun block => some block.header.state) =
      { endpoint
        bound := blocks.countP fun block => block.header.state == .bound
        stale := blocks.countP fun block => block.header.state.isStale
        unbound := 0 } := by
  simp [SyncReport.ofStates, List.count, List.countP_map, Function.comp_def]

/-- What comes of an answer that holds a schema. -/
theorem ofAnswer_of_schema (answer : Answer)
    (h : FetchOutcome.ofAnswer root.endpoint answer = .loaded schema) :
    ofAnswer answer root = .ok
      { tree := against schema root
        report :=
          { endpoint := root.endpoint
            bound := (blocksOf root.endpoint (against schema root)).countP fun block =>
              block.header.state == .bound
            stale := (blocksOf root.endpoint (against schema root)).countP fun block =>
              block.header.state.isStale
            unbound := 0 }
        stale := (blocksOf root.endpoint (against schema root)).filterMap Block.stale? } := by
  have hschema : (FetchOutcome.ofAnswer root.endpoint answer).toExcept = .ok schema := by
    rw [h]
    rfl
  have hpass : ofAnswer answer root = .ok
      { tree := ((pass schema root).2.find? root.id).getD root
        report := (pass schema root).1
        stale := ((pass schema root).2.liveBlocks root.endpoint).filterMap Block.stale? } := by
    rw [ofAnswer_eq, SchemaCache.refresh_of_schema _ _ _ _ schema hschema]
    rfl
  rw [hpass, find?_pass, report_pass, liveBlocks_pass, ofStates_blocks]
  rfl

/-- At every place stands what stood there before, held against the schema if it is bound to the
root's endpoint. -/
theorem places_against (path : List Nat) :
    (Block.atPath? path (against schema root)).map Block.own =
      (Block.atPath? path root).map fun block =>
        if block.endpoint = root.endpoint then ((knownTo schema root).revalidate block).2.own
        else block.own := by
  rw [against, Block.atPath?_mapHeaders, Option.map_map]
  exact congrArg (fun f => Option.map f (Block.atPath? path root))
    (funext ((knownTo schema root).own_pass root.endpoint))

theorem state_against (block : Block) (hb : block ∈ (against schema root).preorder)
    (he : block.endpoint = root.endpoint) :
    block.header.state = schema.stateOf block.isObject block.header := by
  have hlive : block ∈ (pass schema root).2.liveBlocks root.endpoint := by
    rw [liveBlocks_pass]
    exact List.mem_filter.mpr ⟨hb, beq_iff_eq.mpr he⟩
  exact (knownTo schema root).state_syncEndpoint root.endpoint (Workspace.empty.addRoot root)
    schema (SchemaCache.empty.get?_insert_self root.endpoint schema) block hlive

/-- Of a tree that no one has checked, a check leaves the blocks of other endpoints unchecked. -/
theorem state_elsewhere (hroot : root.Unchecked) (block : Block)
    (hb : block ∈ (against schema root).preorder) (he : block.endpoint ≠ root.endpoint) :
    block.header.state = .unbound := by
  rw [against, Block.preorder_mapHeaders] at hb
  obtain ⟨before, hbefore, rfl⟩ := List.mem_map.mp hb
  rw [(knownTo schema root).endpoint_pass root.endpoint before] at he
  rw [Block.header_mapHeaders, SchemaCache.passHeader_elsewhere _ _ _ _ he]
  exact (hroot before hbefore).1

/-- Whether a block was checked shows in its state. -/
theorem state_eq_unbound_iff (hroot : root.Unchecked) (block : Block)
    (hb : block ∈ (against schema root).preorder) :
    block.header.state = .unbound ↔ block.endpoint ≠ root.endpoint := by
  constructor
  · intro hs he
    rw [state_against schema root block hb he] at hs
    exact schema.stateOf_ne_unbound block.isObject block.header hs
  · exact state_elsewhere schema root hroot block hb

/-- The blocks of the root's endpoint are all that can be in a state that a check gives. -/
theorem countP_blocksOf (hroot : root.Unchecked) (p : BlockState → Bool) (hp : p .unbound = false) :
    (blocksOf root.endpoint (against schema root)).countP (fun block => p block.header.state) =
      (against schema root).preorder.countP fun block => p block.header.state := by
  rw [blocksOf, List.countP_filter]
  apply List.countP_congr
  intro block hb
  by_cases he : block.endpoint = root.endpoint
  · simp [he]
  · rw [state_elsewhere schema root hroot block hb he, hp]
    simp

theorem stale_blocksOf (hroot : root.Unchecked) :
    (blocksOf root.endpoint (against schema root)).filterMap Block.stale? =
      (against schema root).preorder.filterMap Block.stale? := by
  rw [blocksOf, List.filterMap_filter]
  apply List.filterMap_congr
  intro block hb
  by_cases he : block.endpoint = root.endpoint
  · simp [he]
  · rw [Block.stale?, Header.stale?, state_elsewhere schema root hroot block hb he]
    simp

theorem endpoints_against :
    (against schema root).preorder.map Block.endpoint = root.preorder.map Block.endpoint := by
  rw [against, Block.preorder_mapHeaders, List.map_map]
  apply List.map_congr_left
  intro block _
  exact (knownTo schema root).endpoint_pass root.endpoint block

theorem length_blocksOf (endpoint : String) (tree : Block) :
    (blocksOf endpoint tree).length = (tree.preorder.map Block.endpoint).count endpoint := by
  rw [blocksOf, ← List.countP_eq_length_filter, List.count, List.countP_map]
  rfl

/-- Each of the blocks that are held against the schema is either bound or stale. -/
theorem bound_add_stale :
    (blocksOf root.endpoint (against schema root)).countP (fun b => b.header.state == .bound) +
        (blocksOf root.endpoint (against schema root)).countP (fun b => b.header.state.isStale) =
      (blocksOf root.endpoint root).length := by
  rw [length_blocksOf, ← endpoints_against schema root, ← length_blocksOf,
    List.length_eq_countP_add_countP (fun block : Block => block.header.state == .bound)]
  congr 1
  apply List.countP_congr
  intro block hb
  obtain ⟨hmem, he⟩ := List.mem_filter.mp hb
  have hs := state_against schema root block hmem (beq_iff_eq.mp he)
  cases hb : block.header.state with
  | unbound => exact absurd (hs.symm.trans hb) (schema.stateOf_ne_unbound _ _)
  | bound => simp [BlockState.isStale]
  | stale condition => simp [BlockState.isStale]

end

/-- A check succeeds only with a schema. -/
theorem exists_loaded (answer : Answer) (root : Block) (check : TreeCheck)
    (h : ofAnswer answer root = .ok check) :
    ∃ schema, FetchOutcome.ofAnswer root.endpoint answer = .loaded schema := by
  cases ho : FetchOutcome.ofAnswer root.endpoint answer with
  | loaded schema => exact ⟨schema, rfl⟩
  | transportFailed cause =>
    rw [ofAnswer, SchemaCache.refresh_of_error _ _ _ _ _ (congrArg FetchOutcome.toExcept ho)] at h
    cases h
  | schemaErrors cause =>
    rw [ofAnswer, SchemaCache.refresh_of_error _ _ _ _ _ (congrArg FetchOutcome.toExcept ho)] at h
    cases h

/-- What a check makes of a loaded tree and says about it, when the root's endpoint answers with
a schema. -/
structure Told (schema : Schema) (root : Block) (check : TreeCheck) : Prop where
  places : ∀ path, (Block.atPath? path check.tree).map Block.own =
    (Block.atPath? path root).map fun block =>
      if block.endpoint = root.endpoint then ((knownTo schema root).revalidate block).2.own
      else block.own
  /-- No block comes or goes, and each keeps its endpoint. -/
  endpoints : check.tree.preorder.map Block.endpoint = root.preorder.map Block.endpoint
  checked : ∀ block ∈ check.tree.preorder, block.endpoint = root.endpoint →
    schema.Dictates block
  /-- The blocks of other endpoints, and no others, are left unchecked. -/
  passedOver : ∀ block ∈ check.tree.preorder,
    block.header.state = .unbound ↔ block.endpoint ≠ root.endpoint
  /-- The number of stale blocks is that of the whole tree. -/
  stale : check.report.stale = check.tree.preorder.countP fun block => block.header.state.isStale
  bound : check.report.bound = check.tree.preorder.countP fun block => block.header.state == .bound
  total : check.report.bound + check.report.stale = (blocksOf root.endpoint root).length
  warned : check.stale = check.tree.preorder.filterMap Block.stale?

theorem exists_told (schema : Schema) (root : Block) (hroot : root.Unchecked) (answer : Answer)
    (h : FetchOutcome.ofAnswer root.endpoint answer = .loaded schema) :
    ∃ check, ofAnswer answer root = .ok check ∧ Told schema root check := by
  refine ⟨_, ofAnswer_of_schema schema root answer h, ?_⟩
  exact
    { places := places_against schema root
      endpoints := endpoints_against schema root
      checked := fun block hb he =>
        schema.dictates_of_state block (state_against schema root block hb he)
      passedOver := state_eq_unbound_iff schema root hroot
      stale := countP_blocksOf schema root hroot BlockState.isStale rfl
      bound := countP_blocksOf schema root hroot (fun state => state == .bound) rfl
      total := bound_add_stale schema root
      warned := stale_blocksOf schema root hroot }

/-- No stale block is left exactly if every block of the root's endpoint is bound. -/
theorem Told.stale_eq_zero_iff {schema : Schema} {root : Block} {check : TreeCheck}
    (h : Told schema root check) :
    check.report.stale = 0 ↔ ∀ block ∈ check.tree.preorder, block.endpoint = root.endpoint →
      block.header.state = .bound := by
  rw [h.stale, List.countP_eq_zero]
  constructor
  · intro hs block hb he
    cases hstate : block.header.state with
    | unbound => exact absurd he ((h.passedOver block hb).mp hstate)
    | bound => rfl
    | stale condition => simpa [hstate, BlockState.isStale] using hs block hb
  · intro hbound block hb
    by_cases he : block.endpoint = root.endpoint
    · rw [hbound block hb he]
      simp [BlockState.isStale]
    · rw [(h.passedOver block hb).mpr he]
      simp [BlockState.isStale]

/-- A check leaves no block unchecked exactly if the whole tree is bound to one endpoint. -/
theorem Told.all_checked_iff {schema : Schema} {root : Block} {check : TreeCheck}
    (h : Told schema root check) :
    (∀ block ∈ check.tree.preorder, block.header.state ≠ .unbound) ↔
      ∀ block ∈ root.preorder, block.endpoint = root.endpoint := by
  have hends : (∀ block ∈ root.preorder, block.endpoint = root.endpoint) ↔
      ∀ block ∈ check.tree.preorder, block.endpoint = root.endpoint := by
    have hmap (tree : Block) : (∀ block ∈ tree.preorder, block.endpoint = root.endpoint) ↔
        ∀ endpoint ∈ tree.preorder.map Block.endpoint, endpoint = root.endpoint := by
      simp
    rw [hmap root, hmap check.tree, h.endpoints]
  rw [hends]
  refine forall₂_congr fun block hb => ?_
  rw [Ne, h.passedOver block hb, not_not]

/-- Then every block of the tree is counted. -/
theorem Told.count_all {schema : Schema} {root : Block} {check : TreeCheck}
    (h : Told schema root check) (hone : ∀ block ∈ root.preorder, block.endpoint = root.endpoint) :
    check.report.bound + check.report.stale = check.tree.preorder.length := by
  rw [h.total, blocksOf, List.filter_eq_self.mpr fun block hb => beq_iff_eq.mpr (hone block hb)]
  have hlength := congrArg List.length h.endpoints
  rw [List.length_map, List.length_map] at hlength
  exact hlength.symm

end TreeCheck

namespace Command

/-- A check of a tree from a file, whose root's endpoint answers with a schema, succeeds. The blocks
of that endpoint are held against the schema and those of any other are passed over. The stale
blocks of the tree are counted, and each is warned of, in preorder. The line that the blocks match
is written exactly if every block of the root's endpoint is bound, with their number. Only in a
tree that is bound to one endpoint is no block left unchecked. -/
theorem checkTree_tells (surroundings : Surroundings) (settings : Settings) (file : String)
    (root : Block) (hroot : HoldsTree surroundings file root) (p : Progress) (answer : Answer)
    (hsend : ((send settings root.endpoint Introspection.document).run p).1 = .ok answer)
    (schema : Schema) (hanswer : FetchOutcome.ofAnswer root.endpoint answer = .loaded schema) :
    ∃ check after, (checkTree settings root).run p = (.ok check, after) ∧
      TreeCheck.Told schema root check ∧
      after.errors = p.errors ++ warningLines (check.tree.preorder.filterMap Block.stale?) ∧
      after.output = p.output ++ checkNotice root.endpoint check.report ∧
      (check.report.stale = 0 ↔ ∀ block ∈ check.tree.preorder,
        block.endpoint = root.endpoint → block.header.state = .bound) ∧
      ((∀ block ∈ check.tree.preorder, block.header.state ≠ .unbound) ↔
        ∀ block ∈ root.preorder, block.endpoint = root.endpoint) ∧
      ((∀ block ∈ root.preorder, block.endpoint = root.endpoint) →
        check.report.bound + check.report.stale = check.tree.preorder.length) := by
  obtain ⟨text, -, hload⟩ := hroot
  have hunchecked := Document.unchecked_ofTreeText text 1 _ root (Prod.ext hload rfl)
  obtain ⟨found, replies, sent, hsent⟩ := run_send settings root.endpoint Introspection.document p
  obtain rfl : found = answer := by
    rw [hsent] at hsend
    exact Except.ok.inj hsend
  obtain ⟨check, hcheck, htold⟩ := TreeCheck.exists_told schema root hunchecked found hanswer
  have hrun := run_checkTree_of_answer settings root found p _ hsent
  rw [hcheck] at hrun
  refine ⟨check, _, hrun, htold, ?_, rfl, htold.stale_eq_zero_iff, htold.all_checked_iff,
    htold.count_all⟩
  rw [htold.warned]

def sizeBlock (number : Nat) : Block :=
  .scalar (.fresh { number } "http://other.example" "size" "Int")

def teamTree : Block :=
  .object (.fresh { number := 1 } "http://poke.example" "team" "Team") [some (sizeBlock 2)]

def crewTree : Block :=
  .object (.fresh { number := 1 } "http://poke.example" "team" "Team")
    [some (.scalar (.fresh { number := 2 } "http://poke.example" "leader" "Trainer")), none,
      some (sizeBlock 3)]

def teamSurroundings : Surroundings :=
  { files := fun path =>
      if path = "team.xml" then .ok teamTree.toTreeText
      else if path = "crew.xml" then .ok crewTree.toTreeText
      else .error .missing
    settingsFile := "settings.toml"
    settingsVariable := none }

theorem holdsTree_saved (surroundings : Surroundings) (file : String) (tree : Block)
    (hf : surroundings.files file = .ok tree.toTreeText) (hc : tree.Countable)
    (hb : ∀ b ∈ tree.preorder, b.slots.length ≤ maxSlots) (hn : (Block.renewed 1 tree).1 = tree) :
    HoldsTree surroundings file tree := by
  refine ⟨tree.toTreeText, hf, ?_⟩
  rw [Block.run_ofTreeText_toTreeText, Document.run_loadTree tree 1 hc hb, hn]

def teamStart : Progress :=
  { replies := [.response 200 ("\x7b\"data\":\x7b\"__schema\":\x7b" ++
      "\"queryType\":\x7b\"name\":\"Query\"\x7d," ++
      "\"types\":[\x7b\"kind\":\"OBJECT\",\"name\":\"Team\"\x7d," ++
      "\x7b\"kind\":\"SCALAR\",\"name\":\"Int\"\x7d]\x7d\x7d\x7d")]
    sent := []
    output := ""
    errors := "" }

def teamCheck (tree : Block) : Option (List BlockState × Nat) × String × String :=
  let run := (checkTree .standard tree).run teamStart
  (run.1.toOption.map fun check =>
    (check.tree.preorder.map fun block => block.header.state, check.report.stale),
    run.2.output, run.2.errors)

theorem run_teamCheck (tree : Block) (states : List BlockState) (stale : Nat)
    (output errors : String) (h : teamCheck tree = (some (states, stale), output, errors)) :
    ∃ check after, (checkTree .standard tree).run teamStart = (.ok check, after) ∧
      check.tree.preorder.map (fun block => block.header.state) = states ∧
      check.report.stale = stale ∧ after.output = output ∧ after.errors = errors := by
  rw [teamCheck] at h
  cases hc : (checkTree .standard tree).run teamStart with
  | mk result after =>
    rw [hc] at h
    cases result with
    | error failure => cases h
    | ok check =>
      cases h
      exact ⟨check, after, rfl, rfl, rfl, rfl, rfl⟩

/-- A block of the tree is left unchecked, and the check says that the blocks match. -/
theorem unchecked_block_in_matching_tree :
    HoldsTree teamSurroundings "team.xml" teamTree ∧
      ∃ check after, (checkTree .standard teamTree).run teamStart = (.ok check, after) ∧
        check.tree.preorder.map (fun block => block.header.state) = [.bound, .unbound] ∧
        check.report.stale = 0 ∧
        after.output = "✓ 1 blocks match http://poke.example\n" ∧ after.errors = "" := by
  have hc : teamTree.Countable := by unfold Block.Countable; decide
  refine ⟨holdsTree_saved _ _ _ rfl hc (by decide) rfl, ?_⟩
  exact run_teamCheck teamTree _ _ _ _ (by decide +kernel)

theorem checkTree_tells_crew :
    HoldsTree teamSurroundings "crew.xml" crewTree ∧
      ∃ answer schema check after,
        ((send .standard crewTree.endpoint Introspection.document).run teamStart).1 = .ok answer ∧
        FetchOutcome.ofAnswer crewTree.endpoint answer = .loaded schema ∧
        (checkTree .standard crewTree).run teamStart = (.ok check, after) ∧
        TreeCheck.Told schema crewTree check ∧
        check.tree.preorder.map (fun block => block.header.state) =
          [.bound, .stale (.typeRemoved "http://poke.example" "Trainer"), .unbound] ∧
        after.output = "" ∧
        after.errors =
          "! #2 leader: type `Trainer` no longer exists at http://poke.example\n" := by
  have hc : crewTree.Countable := by unfold Block.Countable; decide
  have hroot : HoldsTree teamSurroundings "crew.xml" crewTree :=
    holdsTree_saved _ _ _ rfl hc (by decide) rfl
  obtain ⟨check, after, hcheck, hstates, -, houtput, herrors⟩ :=
    run_teamCheck crewTree [.bound, .stale (.typeRemoved "http://poke.example" "Trainer"),
      .unbound] 1 "" "! #2 leader: type `Trainer` no longer exists at http://poke.example\n"
      (by decide +kernel)
  obtain ⟨answer, replies, sent, hsent⟩ :=
    run_send .standard crewTree.endpoint Introspection.document teamStart
  have hsend := congrArg Prod.fst hsent
  obtain ⟨schema, hschema⟩ : ∃ schema, FetchOutcome.ofAnswer crewTree.endpoint answer =
      .loaded schema := by
    have hrun := run_checkTree_of_answer .standard crewTree answer teamStart _ hsent
    cases ha : TreeCheck.ofAnswer answer crewTree with
    | error cause =>
      rw [ha, hcheck] at hrun
      cases hrun
    | ok found => exact TreeCheck.exists_loaded answer crewTree found ha
  obtain ⟨found, stop, hrun, htold, -⟩ := checkTree_tells teamSurroundings .standard "crew.xml"
    crewTree hroot teamStart answer hsend schema hschema
  rw [hcheck] at hrun
  cases hrun
  exact ⟨hroot, answer, schema, check, after, hsend, hschema, hcheck, htold, hstates, houtput,
    herrors⟩

end Command

end QueryBlocks
