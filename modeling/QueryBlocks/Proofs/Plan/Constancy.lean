import QueryBlocks.Proofs.Block.Persistence
import QueryBlocks.Proofs.Command.Compilation
import QueryBlocks.Proofs.Workspace.Verdicts

/-!
# Plans stay what they are

Neither what happens to schemas nor being saved and loaded changes the query of a tree.
-/

set_option autoImplicit false

namespace QueryBlocks

/-- What two trees have in common that stand for the same query. -/
structure SameQuery (a b : Block) : Prop where
  plan : a.compile = b.compile
  /-- Either may stand for the other among the roots of an operation. -/
  operation : ∀ kind name before after,
    compileOperation kind name (before ++ a :: after) =
      compileOperation kind name (before ++ b :: after)
  checks : ∀ path,
    (Block.atPath? path a).map (fun block => block.header.outputCheck) =
      (Block.atPath? path b).map fun block => block.header.outputCheck
  /-- A pass delivers the same verdicts in the same order, whatever else is in the workspace. -/
  passes : ∀ (cache : SchemaCache) endpoint (workspace : Workspace),
    (cache.syncEndpoint endpoint (workspace.addRoot a)).1 =
        (cache.syncEndpoint endpoint (workspace.addRoot b)).1 ∧
      (cache.syncEndpoint endpoint (workspace.addRoot a)).2.results.map Prod.snd =
        (cache.syncEndpoint endpoint (workspace.addRoot b)).2.results.map Prod.snd

theorem sameQuery_alike (a b : Block) (h : a.Alike b) : SameQuery a b where
  plan := Block.compile_alike a b h
  operation kind name before after := compileOperation_alike kind name before after a b h
  checks := Block.outputCheck_alike a b h
  passes cache endpoint workspace := cache.syncEndpoint_alike endpoint workspace a b h

/-- A tree that was saved and loaded stands for the same query. -/
theorem sameQuery_loaded (tree : Block) (next : Nat) (hc : tree.Countable)
    (hs : ∀ block ∈ tree.preorder, block.slots.length ≤ maxSlots) :
    ∃ loaded, ((Block.ofTreeText tree.toTreeText).run next).1 = .ok loaded ∧
      SameQuery tree loaded := by
  refine ⟨(Block.renewed next tree).1, ?_, sameQuery_alike _ _ (Block.alike_renewed next tree)⟩
  rw [Block.run_ofTreeText_toTreeText, Document.run_loadTree tree next hc hs]

theorem compile_run (events : List Upkeep.Event) (s : Upkeep.State) (root : Nat)
    (path : List Nat) :
    ((Upkeep.run events s).workspace.blockAt? root path).map Block.compile =
      (s.workspace.blockAt? root path).map Block.compile := by
  have h := congrArg (Option.map Block.compile) (Upkeep.blockAt?_lasts s.workspace
    (Upkeep.run events s).workspace (Upkeep.lasts_run events s) root path)
  simpa only [Option.map_map, Function.comp_def, Block.compile_lasting] using h

/-- The plan of every block of a workspace stays the same, whatever schemas come and go and
whatever is checked. A tree that is saved and loaded again keeps its plan and its operations,
fits the same inputs and gets the same verdicts. And a tree in a file is compiled to the same
query and plan with a check that succeeds as without one. -/
theorem plans_kept :
    (∀ (events : List Upkeep.Event) (s : Upkeep.State) (root : Nat) (path : List Nat),
      ((Upkeep.run events s).workspace.blockAt? root path).map Block.compile =
        (s.workspace.blockAt? root path).map Block.compile) ∧
    (∀ (tree : Block) (next : Nat), tree.Countable →
      (∀ block ∈ tree.preorder, block.slots.length ≤ maxSlots) →
        ∃ loaded, ((Block.ofTreeText tree.toTreeText).run next).1 = .ok loaded ∧
          SameQuery tree loaded) ∧
    (∀ (surroundings : Command.Surroundings) replies checked unchecked file plan settings format,
      Command.parse checked surroundings.settingsVariable =
          .ok (Command.compileCall file true plan settings format) →
        Command.parse unchecked surroundings.settingsVariable =
          .ok (Command.compileCall file false plan settings format) →
        (Command.execute surroundings replies checked).code = 0 →
          ∃ tree report, Command.HoldsTree surroundings file tree ∧
            (Command.execute surroundings replies unchecked).code = 0 ∧
            (Command.execute surroundings replies unchecked).output =
              Command.compiledText format plan tree 0 ∧
            (Command.execute surroundings replies checked).output =
              Command.checkNotice tree.endpoint report ++
                Command.compiledText format plan tree report.stale) :=
  ⟨compile_run, sameQuery_loaded, Command.output_compile⟩

def heightSurroundings : Command.Surroundings :=
  { files := fun path =>
      if path = "height.xml" then
        .ok ("<block type=\"gql\"><mutation gql_url=\"https://poke.example\"" ++
          " gql_name=\"height\" gql_type=\"Int\"/></block>")
      else .error .missing
    settingsFile := "settings.toml"
    settingsVariable := none }

def heightReplies : List Http.Reply :=
  [.response 200 ("\x7b\"data\":\x7b\"__schema\":\x7b" ++
    "\"queryType\":\x7b\"name\":\"Query\"\x7d," ++
    "\"types\":[\x7b\"kind\":\"SCALAR\",\"name\":\"Int\"\x7d]\x7d\x7d\x7d")]

theorem code_heightReplies :
    (Command.execute heightSurroundings heightReplies ["compile", "height.xml", "--check"]).code =
      0 := by
  decide +kernel

theorem plans_kept_mixedTree :
    (Block.mixedTree.Countable ∧
      ∃ loaded, ((Block.ofTreeText Block.mixedTree.toTreeText).run 1).1 = .ok loaded ∧
        SameQuery Block.mixedTree loaded) ∧
    ∃ tree report, Command.HoldsTree heightSurroundings "height.xml" tree ∧
      (Command.execute heightSurroundings heightReplies ["compile", "height.xml"]).output =
        tree.compile.render ∧
      (Command.execute heightSurroundings heightReplies
          ["compile", "height.xml", "--check"]).output =
        Command.checkNotice tree.endpoint report ++ tree.compile.render := by
  have hc : Block.mixedTree.Countable := by unfold Block.Countable; decide
  obtain ⟨tree, report, htree, -, hwithout, hwith⟩ := plans_kept.2.2 heightSurroundings
    heightReplies ["compile", "height.xml", "--check"] ["compile", "height.xml"] "height.xml"
    false none .table rfl rfl code_heightReplies
  exact ⟨⟨hc, plans_kept.2.1 Block.mixedTree 1 hc (by decide)⟩,
    tree, report, htree, hwithout, hwith⟩

end QueryBlocks
