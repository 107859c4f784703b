import QueryBlocks.Proofs.Command.Steps
import QueryBlocks.Proofs.Plan.Dependence
import QueryBlocks.Proofs.Workspace.Upkeep

/-!
# Compiling with and without a check

A check before a tree is compiled adds a line about the check and the number of stale blocks.
The query and the plan are those of the tree in the file.
-/

set_option autoImplicit false

namespace QueryBlocks

theorem Block.compile_lasting (block : Block) : block.lasting.compile = block.compile :=
  Block.compile_mapHeaders (fun _ header => header.lasting) (fun _ _ => ⟨rfl, rfl⟩) block

theorem Block.find?_own (block : Block) : block.find? block.id = some block := by
  rw [Block.find?, Block.preorder_eq, List.find?_cons_of_pos (by simp [Block.id])]

/-- A walk that notes the blocks that no longer fit gives them in pre-order. -/
theorem TreeCheck.run_note (endpoint : String) (workspace : Workspace) :
    ((Workspace.visitLive endpoint TreeCheck.note workspace.roots).run []).2 =
      (workspace.liveBlocks endpoint).filterMap Block.stale? := by
  have hstep : ∀ (stale : List StaleBlock) (block : Block),
      Block.seeing TreeCheck.note stale block = stale ++ block.stale?.toList := fun _ _ => rfl
  rw [Workspace.state_visitLive, funext fun stale => funext (hstep stale),
    List.foldl_append_eq_append, List.nil_append, ← List.flatMap_def,
    ← List.filterMap_eq_flatMap_toList]
  rfl

theorem TreeCheck.ofAnswer_eq (answer : Answer) (root : Block) :
    TreeCheck.ofAnswer answer root = do
      let (result, _, workspace) :=
        SchemaCache.empty.refresh root.endpoint answer (Workspace.empty.addRoot root)
      let report ← result
      return {
        tree := (workspace.find? root.id).getD root
        report
        stale := (workspace.liveBlocks root.endpoint).filterMap Block.stale? } := by
  simp only [← run_note]
  rfl

/-- What is checked is the tree itself, up to what a check may change. -/
theorem TreeCheck.lasting_ofAnswer (answer : Answer) (root : Block) (check : TreeCheck)
    (h : TreeCheck.ofAnswer answer root = .ok check) : check.tree.lasting = root.lasting := by
  have hl : Upkeep.Lasts [root] (SchemaCache.empty.refresh root.endpoint answer
      (Workspace.empty.addRoot root)).2.2.roots :=
    Upkeep.lasts_perform { cache := .empty, workspace := Workspace.empty.addRoot root }
      (.refreshed root.endpoint answer)
  simp only [TreeCheck.ofAnswer_eq] at h
  generalize SchemaCache.empty.refresh root.endpoint answer (Workspace.empty.addRoot root) =
    refreshed at h hl
  obtain ⟨result, cache, workspace⟩ := refreshed
  cases result with
  | error cause => cases h
  | ok report =>
    cases h
    obtain ⟨tree, rest, hroots, htree, hrest⟩ := List.map_eq_cons_iff.mp hl
    rw [List.map_nil, List.map_eq_nil_iff] at hrest
    have hid : tree.id = root.id := by
      have hi := congrArg Block.id htree
      rwa [Block.id, Block.id, Block.lasting, Block.lasting, Block.header_mapHeaders,
        Block.header_mapHeaders] at hi
    -- the root comes first in preorder, so its identity finds it and no block below it
    have hf : workspace.find? root.id = some tree := by
      rw [Workspace.find?, hroots, hrest, List.findSome?_singleton, ← hid, Block.find?_own]
    change ((workspace.find? root.id).getD root).lasting = root.lasting
    rw [hf]
    exact htree

end QueryBlocks

namespace QueryBlocks.Command

def compileCall (file : String) (check plan : Bool) (settings : Option String) (format : Format) :
    Invocation :=
  { action := .compile file check plan, settings, format }

def compiledText (format : Format) (plan : Bool) (tree : Block) (stale : Nat) : String :=
  match format with
  | .json => (planJson tree stale).pretty ++ "\n"
  | .table => if plan then tree.compile.fragment.hostCode ++ "\n" else tree.compile.render

/-- What checks may change of a tree is not printed. -/
theorem compiledText_lasting (format : Format) (plan : Bool) (a b : Block) (stale : Nat)
    (h : a.lasting = b.lasting) :
    compiledText format plan a stale = compiledText format plan b stale := by
  have hcompile : a.compile = b.compile := by
    rw [← a.compile_lasting, ← b.compile_lasting, h]
  have hendpoint : a.endpoint = b.endpoint := by
    have he := congrArg Block.endpoint h
    rwa [Block.endpoint, Block.endpoint, Block.lasting, Block.lasting, Block.header_mapHeaders,
      Block.header_mapHeaders] at he
  cases format with
  | json => rw [compiledText, compiledText, planJson, planJson, hcompile, hendpoint]
  | table => rw [compiledText, compiledText, hcompile]

def printCompiled (format : Format) (plan : Bool) (tree : Block) (stale : Nat) : Run Unit :=
  match format with
  | .json => printLine (planJson tree stale).pretty
  | .table =>
    if plan then printLine tree.compile.fragment.hostCode else printText tree.compile.render

theorem run_printCompiled (format : Format) (plan : Bool) (tree : Block) (stale : Nat)
    (p : Progress) :
    (printCompiled format plan tree stale).run p =
      (.ok (), { p with output := p.output ++ compiledText format plan tree stale }) := by
  cases format with
  | json => rfl
  | table => cases plan <;> rfl

section

variable (surroundings : Surroundings) (settings : Settings) (format : Format) (file : String)
  (plan : Bool)

theorem compileTree_unchecked :
    compileTree surroundings settings format file false plan =
      (do printCompiled format plan (← loadTree surroundings file) 0) := rfl

theorem compileTree_checked :
    compileTree surroundings settings format file true plan =
      (do
        let check ← checkTree settings (← loadTree surroundings file)
        printCompiled format plan check.tree check.report.stale) := rfl

/-- If a tree is compiled with a check, then it is compiled without one, and all that the check
adds to the output is its notice and the number of stale blocks. -/
theorem run_compileTree (p after : Progress)
    (h : (compileTree surroundings settings format file true plan).run p = (.ok (), after)) :
    ∃ tree report, HoldsTree surroundings file tree ∧
      (compileTree surroundings settings format file false plan).run p =
          (.ok (), { p with output := p.output ++ compiledText format plan tree 0 }) ∧
        after.output = p.output ++ checkNotice tree.endpoint report ++
          compiledText format plan tree report.stale := by
  rw [compileTree_unchecked, run_bind]
  rw [compileTree_checked, run_bind] at h
  obtain ⟨failure, hload⟩ | ⟨tree, htree, hload⟩ := run_loadTree surroundings file
  · rw [hload] at h
    cases h
  · simp only [hload, run_bind] at h ⊢
    cases hc : (checkTree settings tree).run p with
    | mk result mid =>
      cases result with
      | error failure =>
        rw [hc] at h
        cases h
      | ok check =>
        obtain ⟨⟨answer, ha⟩, hmid⟩ := run_checkTree settings tree check p mid hc
        have hsame := compiledText_lasting format plan check.tree tree check.report.stale
          (TreeCheck.lasting_ofAnswer answer tree check ha)
        simp only [hc, run_printCompiled, hsame] at h
        cases h
        refine ⟨tree, check.report, htree, run_printCompiled format plan tree 0 p, ?_⟩
        rw [hmid]

end

/-- The settings are read before a command is carried out. -/
theorem run_perform_compileCall (surroundings : Surroundings) (file : String) (plan : Bool)
    (settings : Option String) (format : Format) :
    ∃ found : Except Failure Settings, ∀ check p,
      (perform surroundings (compileCall file check plan settings format)).run p =
        match found with
        | .ok found => (compileTree surroundings found format file check plan).run p
        | .error failure => (.error failure, p) := by
  cases hs : Settings.ofFile (surroundings.files (settings.getD surroundings.settingsFile)) with
  | error cause =>
    refine ⟨.error (.settings (settings.getD surroundings.settingsFile) cause), fun check p => ?_⟩
    simp only [perform, compileCall, hs, run_bind, run_orFail_error]
  | ok found =>
    refine ⟨.ok found, fun check p => ?_⟩
    simp only [perform, compileCall, hs, run_bind, run_orFail_ok]

/-- If compiling with a check succeeds, then so does compiling without one, and both print the
same tree's query and plan. -/
theorem output_compile (surroundings : Surroundings) (replies : List Http.Reply)
    (checked unchecked : List String) (file : String) (plan : Bool) (settings : Option String)
    (format : Format)
    (hc : parse checked surroundings.settingsVariable =
      .ok (compileCall file true plan settings format))
    (hu : parse unchecked surroundings.settingsVariable =
      .ok (compileCall file false plan settings format))
    (h : (execute surroundings replies checked).code = 0) :
    ∃ tree report, HoldsTree surroundings file tree ∧
      (execute surroundings replies unchecked).code = 0 ∧
        (execute surroundings replies unchecked).output = compiledText format plan tree 0 ∧
        (execute surroundings replies checked).output =
          checkNotice tree.endpoint report ++ compiledText format plan tree report.stale := by
  obtain ⟨found, hp⟩ := run_perform_compileCall surroundings file plan settings format
  simp only [execute, hc, hu, hp] at h ⊢
  cases found with
  | error failure => cases h
  | ok found =>
    simp only at h ⊢
    cases hr : (compileTree surroundings found format file true plan).run
        { replies, sent := [], output := "", errors := "" } with
    | mk result after =>
      cases result with
      | error failure =>
        rw [hr] at h
        cases h
      | ok done =>
        obtain ⟨tree, report, htree, hwithout, hafter⟩ :=
          run_compileTree surroundings found format file plan _ after hr
        refine ⟨tree, report, htree, ?_, ?_, ?_⟩
        · rw [hwithout]
        · rw [hwithout, String.empty_append]
        · change after.output = _
          rw [hafter, String.empty_append]

end QueryBlocks.Command
