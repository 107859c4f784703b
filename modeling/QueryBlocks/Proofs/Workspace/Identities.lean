import QueryBlocks.Proofs.Block.Focus
import QueryBlocks.Proofs.Block.Identities
import QueryBlocks.Proofs.Workspace.Creation
import QueryBlocks.Proofs.Workspace.Lifetime

/-!
# Identities in a session

A session makes blocks by whatever makers and loads, with every edit in between. No block is made
under a number that was used before. Edits move blocks or lose them but copy none, so a session into
which no copies are brought has each identity once at most.
-/

set_option autoImplicit false

namespace QueryBlocks

namespace SchemaCache

variable (cache : SchemaCache) (template : Template)

theorem constructs_newBlock : Constructs (cache.newBlock template) :=
  .bind _ _ (Block.constructs_ofTemplate template) fun _ => .pure _

theorem constructs_createBlock (workspace : Workspace) :
    Constructs (cache.createBlock template workspace) :=
  .bind _ _ (cache.constructs_newBlock template) fun _ => .pure _

theorem constructs_insertChild (index : Nat) (parent : Block) (workspace : Workspace) :
    Constructs (cache.insertChild index template parent workspace).run := by
  unfold insertChild newChild
  refine .bindTry _ _ ?_ fun _ => .pure _
  exact .bindTry _ _ (.ofExcept _) fun _ =>
    .bindTry _ _ (.ofNumbering _ (cache.constructs_newBlock template)) fun _ =>
      .bindTry _ _ (.ofExcept _) fun _ => .pure _

end SchemaCache

namespace Lifetime

open Block (forestMarks Moves)

inductive Step where
  | event (happening : Event)
  | newScalar (endpoint field typeName : String)
  | newObject (endpoint field typeName : String) (slotCount : Nat)
  | ofTemplate (template : Template)
  /-- A block is made for a template and the workspace is told. -/
  | createBlock (template : Template)
  /-- A child is made for a template in a new slot of the block at a spot. -/
  | insertChild (spot : Spot) (index : Nat) (template : Template)
  | loadState (text : String)
  | loadTree (text : String)

def Step.arrivals : Step → List Block
  | .event happening => happening.arrivals
  | _ => []

def State.collect (s : State) : Except LoadError Block → State
  | .ok block => s.receive [block]
  | .error _ => s

def State.told (s : State) (workspace : Workspace) : Spot → State
  | .hand _ _ => { s with workspace }
  | _ => s

def State.insert (s : State) (spot : Spot) (index : Nat) (template : Template) : Numbering State :=
  match s.editAt? (fun block => (block, block)) spot with
  | none => return s
  | some (parent, _) => do
    match ← (s.cache.insertChild index template parent s.workspace).run with
    | .error _ => return s
    | .ok (_, grown, workspace) =>
      match s.editAt? (fun parent => (parent, grown)) spot with
      | none => return s
      | some (_, after) => return after.told workspace spot

def Step.take (s : State) : Step → Numbering State
  | .event happening => return (perform s happening).2
  | .newScalar endpoint field typeName => do
    return s.receive [← Block.newScalar endpoint field typeName]
  | .newObject endpoint field typeName slotCount => do
    return s.receive [← Block.newObject endpoint field typeName slotCount]
  | .ofTemplate template => do return s.receive [← Block.ofTemplate template]
  | .createBlock template => do
    let (block, workspace) ← s.cache.createBlock template s.workspace
    return State.receive { s with workspace } [block]
  | .insertChild spot index template => s.insert spot index template
  | .loadState text => do return s.collect (← (Block.ofStateText text).run)
  | .loadTree text => do return s.collect (← (Block.ofTreeText text).run)

def take : List Step → State → Numbering State
  | [], s => return s
  | step :: steps, s => do take steps (← step.take s)

theorem constructs_insert (s : State) (spot : Spot) (index : Nat) (template : Template) :
    Constructs (s.insert spot index template) := by
  rw [State.insert]
  cases s.editAt? (fun block => (block, block)) spot with
  | none => exact .pure _
  | some found =>
    refine .bind _ _ (s.cache.constructs_insertChild template index found.1 s.workspace) ?_
    intro result
    cases result with
    | error cause => exact .pure _
    | ok made =>
      simp only
      cases s.editAt? (fun parent => (parent, made.2.1)) spot with
      | none => exact .pure _
      | some placed => exact .pure _

theorem constructs_step (s : State) (step : Step) : Constructs (step.take s) := by
  cases step with
  | event happening => exact .pure _
  | newScalar endpoint field typeName =>
    exact .bind _ _ (Block.constructs_newScalar endpoint field typeName) fun _ => .pure _
  | newObject endpoint field typeName slotCount =>
    exact .bind _ _ (Block.constructs_newObject endpoint field typeName slotCount) fun _ => .pure _
  | ofTemplate template => exact .bind _ _ (Block.constructs_ofTemplate template) fun _ => .pure _
  | createBlock template =>
    exact .bind _ _ (s.cache.constructs_createBlock template s.workspace) fun _ => .pure _
  | insertChild spot index template => exact constructs_insert s spot index template
  | loadState text => exact .bind _ _ (Block.constructs_ofStateText text) fun _ => .pure _
  | loadTree text => exact .bind _ _ (Block.constructs_ofTreeText text) fun _ => .pure _

theorem constructs_take (steps : List Step) (s : State) : Constructs (take steps s) := by
  induction steps generalizing s with
  | nil => exact .pure s
  | cons step steps ih => exact .bind _ _ (constructs_step s step) ih

def State.ids (s : State) : List BlockId := s.forest.flatMap Block.ids

theorem ids_eq_marks (s : State) : s.ids = (forestMarks s.forest).map fun mark => mark.2.id := by
  rw [State.ids, forestMarks, List.map_flatMap]
  exact List.flatMap_congr fun block _ => block.ids_eq_marks

theorem ids_evolves (cache : SchemaCache) (trace : Trace) (before after : List Mark)
    (h : Evolves cache trace before after) :
    (after.map fun mark => mark.2.id).Subperm (before.map fun mark => mark.2.id) := by
  obtain ⟨flagged, hb, ha, -⟩ := h
  have hafter := ha.map fun mark : Mark => mark.2.id
  have hbefore := subperm_map (fun mark : Mark => mark.2.id) _ _ hb
  rw [List.map_map] at hafter hbefore
  have hsame : flagged.map ((fun mark : Mark => mark.2.id) ∘ Flagged.after cache) =
      flagged.map ((fun mark : Mark => mark.2.id) ∘ Prod.snd) :=
    List.map_congr_left fun entry _ => id_after cache entry
  rw [hsame] at hafter
  exact hafter.subperm.trans hbefore

theorem subperm_receive (s : State) (block : Block) (used : List BlockId)
    (h : block.ids.Subperm used) : (s.receive [block]).ids.Subperm (used ++ s.ids) := by
  have hp := (forestMarks_receive s [block]).map fun mark => mark.2.id
  rw [List.map_append, ← ids_eq_marks, ← ids_eq_marks, forestMarks, List.flatMap_singleton,
    ← block.ids_eq_marks] at hp
  exact hp.subperm.trans ((List.subperm_append_right s.ids).mpr h)

theorem subperm_event (s : State) (happening : Event) (own : happening.arrivals = []) :
    (perform s happening).2.ids.Subperm s.ids := by
  obtain ⟨cache, h⟩ := evolves_perform s happening
  rw [own] at h
  rw [ids_eq_marks, ids_eq_marks]
  exact ids_evolves cache _ _ _ h

theorem ids_block (template : Template) (next : Nat) :
    (template.block next).ids = [{ number := next }] := by
  rw [Template.block]
  split <;> rfl

theorem ids_created (cache : SchemaCache) (template : Template) (next : Nat) :
    (cache.created template next).ids = [{ number := next }] := by
  rw [Block.ids, cache.preorder_created, List.map_singleton, cache.id_created]

theorem subperm_single (s : State) (block : Block) (next : Nat)
    (h : block.ids = [{ number := next }]) :
    (s.receive [block]).ids.Subperm (numbers next (next + 1) ++ s.ids) := by
  apply subperm_receive s block
  rw [h, numbers_succ]

theorem subperm_collect (s : State) (result : Except LoadError Block) (used : List BlockId)
    (h : ∀ block, result = .ok block → block.ids.Subperm used) :
    (s.collect result).ids.Subperm (used ++ s.ids) := by
  cases result with
  | error fault => exact (List.sublist_append_right used s.ids).subperm
  | ok block => exact subperm_receive s block used (h block rfl)

theorem moves_inserted (header : Header) (slots : Block.Slots) (index : Nat) (child : Block)
    (h : index ≤ slots.length) :
    Moves [child] (.object header slots) []
      (.object header (slots.insertIdx index (some child))) := by
  apply Block.moves_of_mark
  · rfl
  · exact ((List.perm_insertIdx (some child) slots h).filterMap fun slot => slot).subperm

/-- What is put back in the place of a block of the forest has its marks beside all others. -/
theorem subperm_put (s after : State) (spot : Spot) (parent grown child : Block)
    (hm : Moves [child] parent [] grown)
    (h : s.editAt? (fun block => (block, grown)) spot = some (parent, after)) :
    after.ids.Subperm (child.ids ++ s.ids) := by
  obtain ⟨block, rest, hb, ha, rfl⟩ := edited_editAt? _ s after spot parent h
  rw [Moves, forestMarks, forestMarks, List.flatMap_nil, List.flatMap_singleton,
    List.nil_append] at hm
  have hmarks : (forestMarks after.forest).Subperm (child.marks ++ forestMarks s.forest) := by
    have hwider := ha.subperm.trans ((List.subperm_append_right rest).mpr hm)
    rw [List.append_assoc] at hwider
    exact hwider.trans (hb.symm.append_left child.marks).subperm
  have hids := subperm_map (fun mark : Mark => mark.2.id) _ _ hmarks
  rwa [List.map_append, ← ids_eq_marks, ← ids_eq_marks, ← child.ids_eq_marks] at hids

/-- An edit outside of the workspace leaves the workspace alone until it is told. -/
theorem ids_told {ρ : Type} (f : Block → ρ × Block) (s after : State) (spot : Spot) (result : ρ)
    (workspace : Workspace) (h : s.editAt? f spot = some (result, after))
    (hw : workspace.roots = s.workspace.roots) : (after.told workspace spot).ids = after.ids := by
  cases spot with
  | hand tree path =>
    obtain ⟨⟨found, hand⟩, -, h⟩ := Option.map_eq_some_iff.mp h
    cases h
    rw [State.told, State.ids, State.ids, State.forest, State.forest, hw]
  | root root path => rfl
  | named id => rfl

theorem focused_editAt? (s : State) (spot : Spot) : Block.Focused fun _ f => s.editAt? f spot := by
  cases spot with
  | root root path =>
    exact Block.focused_map _ _
      (fun roots => { s with workspace := { s.workspace with roots } }) (fun ρ f => rfl)
      (Block.focused_editForest? root path s.workspace.roots)
  | hand tree path =>
    exact Block.focused_map _ _ (fun hand => { s with hand }) (fun ρ f => rfl)
      (Block.focused_editForest? tree path s.hand)
  | named id =>
    have hw : Block.Focused fun _ f => s.workspace.mutate? id f :=
      Block.focused_map _ _
        (fun roots => { s.workspace with roots }.record (.structureChanged id)) (fun ρ f => rfl)
        (Block.focused_editRoots? id s.workspace.roots)
    exact Block.focused_map _ _ (fun workspace => { s with workspace }) (fun ρ f => rfl) hw

theorem run_insert_absent (s : State) (spot : Spot) (index : Nat) (template : Template)
    (next : Nat) (h : ∀ ρ f, s.editAt? (ρ := ρ) f spot = none) :
    (s.insert spot index template).run next = (s, next) := by
  rw [State.insert, h]
  rfl

theorem run_insert_at (s : State) (spot : Spot) (index : Nat) (template : Template) (next : Nat)
    (parent : Block) (put : Block → State)
    (h : ∀ ρ f, s.editAt? (ρ := ρ) f spot = some ((f parent).1, put (f parent).2)) :
    (s.insert spot index template).run next =
      match (s.cache.insertChild index template parent s.workspace).run next with
      | (.error _, stop) => (s, stop)
      | (.ok (_, grown, workspace), stop) => ((put grown).told workspace spot, stop) := by
  rw [State.insert, h]
  simp only [h]
  change (match (s.cache.insertChild index template parent s.workspace).run next with
    | (result, stop) => StateT.run (match result with
      | .error _ => return s
      | .ok (_, grown, workspace) =>
        return (put grown).told workspace spot : Numbering State) stop) = _
  generalize (s.cache.insertChild index template parent s.workspace).run next = ran
  obtain ⟨result, stop⟩ := ran
  cases result with
  | error cause => rfl
  | ok made => rfl

theorem subperm_insert (s : State) (spot : Spot) (index : Nat) (template : Template)
    (next : Nat) :
    ((s.insert spot index template).run next).1.ids.Subperm
      (numbers next ((s.insert spot index template).run next).2 ++ s.ids) := by
  have hkept (stop : Nat) : s.ids.Subperm (numbers next stop ++ s.ids) :=
    (List.sublist_append_right (numbers next stop) s.ids).subperm
  rcases focused_editAt? s spot with h | ⟨parent, put, h⟩
  · rw [run_insert_absent s spot index template next h]
    exact hkept next
  · rw [run_insert_at s spot index template next parent put h, SchemaCache.run_insertChild]
    cases parent with
    | scalar header => exact hkept next
    | object header slots =>
      by_cases hi : index ≤ slots.length
      · simp only [if_pos hi]
        have hat := h Block fun block =>
          (block, .object header (slots.insertIdx index (some (s.cache.created template next))))
        have hput := subperm_put s _ spot _ _ (s.cache.created template next)
          (moves_inserted header slots index (s.cache.created template next) hi) hat
        -- what is told to the workspace does not change its roots
        have htold := ids_told _ s _ spot _
          ((s.cache.announce template next s.workspace).record (.structureChanged header.id))
          hat rfl
        rw [ids_created, ← numbers_succ] at hput
        rw [htold]
        exact hput
      · simp only [if_neg hi]
        exact hkept next

/-- One step: what is there afterwards was there before, or has a number that the step used. -/
theorem subperm_step (s : State) (step : Step) (next : Nat) (own : step.arrivals = []) :
    ((step.take s).run next).1.ids.Subperm
      (numbers next ((step.take s).run next).2 ++ s.ids) := by
  cases step with
  | event happening =>
    change (perform s happening).2.ids.Subperm (numbers next next ++ s.ids)
    rw [numbers_self]
    exact subperm_event s happening own
  | newScalar endpoint field typeName => exact subperm_single s _ next rfl
  | newObject endpoint field typeName slotCount =>
    exact subperm_single s _ next (Block.ids_childless _ slotCount)
  | ofTemplate template =>
    have hrun : ((Step.ofTemplate template).take s).run next =
        (s.receive [template.block next], next + 1) := by
      change (s.receive [((Block.ofTemplate template).run next).1],
        ((Block.ofTemplate template).run next).2) = _
      rw [template.run_ofTemplate]
    rw [hrun]
    exact subperm_single s _ next (ids_block template next)
  | createBlock template =>
    have hrun : ((Step.createBlock template).take s).run next =
        (State.receive { s with workspace := s.cache.announce template next s.workspace }
          [s.cache.created template next], next + 1) := by
      change (State.receive
        { s with workspace := ((s.cache.createBlock template s.workspace).run next).1.2 }
        [((s.cache.createBlock template s.workspace).run next).1.1],
        ((s.cache.createBlock template s.workspace).run next).2) = _
      rw [s.cache.run_createBlock]
    rw [hrun]
    exact subperm_single _ _ next (ids_created s.cache template next)
  | insertChild spot index template => exact subperm_insert s spot index template next
  | loadState text =>
    change (s.collect ((Block.ofStateText text).run next).1).ids.Subperm
      (numbers next ((Block.ofStateText text).run next).2 ++ s.ids)
    apply subperm_collect
    intro block h
    have hd := Block.draws_ofStateText text next block _ (Prod.ext h rfl)
    rwa [List.append_nil] at hd
  | loadTree text =>
    change (s.collect ((Block.ofTreeText text).run next).1).ids.Subperm
      (numbers next ((Block.ofTreeText text).run next).2 ++ s.ids)
    apply subperm_collect
    intro block h
    have hd := Block.draws_ofTreeText text next block _ (Prod.ext h rfl)
    rwa [List.append_nil] at hd

theorem subperm_take (steps : List Step) (s : State) (next : Nat)
    (own : ∀ step ∈ steps, step.arrivals = []) :
    ((take steps s).run next).1.ids.Subperm
      (numbers next ((take steps s).run next).2 ++ s.ids) := by
  induction steps generalizing s next with
  | nil => exact (List.sublist_append_right _ s.ids).subperm
  | cons step steps ih =>
    have hstep := subperm_step s step next (own step (by simp))
    have hrest := ih ((step.take s).run next).1 ((step.take s).run next).2
      fun other ho => own other (by simp [ho])
    have hmid := (constructs_step s step).run_le _ next
    have hstop := (constructs_take steps ((step.take s).run next).1).run_le _
      ((step.take s).run next).2
    exact subperm_later next _ _ s.ids _ _ hmid hstop hstep hrest

theorem filter_id_eq (blocks : List Block) (hn : (blocks.map Block.id).Nodup) (id : BlockId) :
    blocks.filter (fun block => block.id = id) =
      (blocks.find? fun block => block.id = id).toList := by
  induction blocks with
  | nil => rfl
  | cons block blocks ih =>
    rw [List.map_cons, List.nodup_cons] at hn
    by_cases h : block.id = id
    · have hothers : blocks.filter (fun other => other.id = id) = [] := by
        apply List.filter_eq_nil_iff.mpr
        intro other ho heq
        have hid : other.id = block.id := by rw [h]; exact of_decide_eq_true heq
        exact hn.1 (hid ▸ List.mem_map_of_mem ho)
      simp [h, hothers]
    · simp [h, ih hn.2]

theorem find?_eq (workspace : Workspace) (id : BlockId) :
    workspace.find? id = workspace.blocks.find? fun block => block.id = id := by
  rw [Workspace.find?, Workspace.blocks, List.find?_flatMap]
  rfl

/-- No two blocks can be mistaken for each other: those that are there have identities of blocks
that were made, each at most once, and looking one up gives the only block of the workspace that
has it. -/
structure Unmistakable (made : List Block) (closing : State) : Prop where
  held : closing.ids.Subperm (made.map Block.id)
  distinct : closing.ids.Nodup
  found : ∀ id, closing.workspace.blocks.filter (fun block => block.id = id) =
    (closing.workspace.find? id).toList

theorem unmistakable_of_held (made : List Block) (closing : State)
    (hh : closing.ids.Subperm (made.map Block.id)) (hn : (made.map Block.id).Nodup) :
    Unmistakable made closing := by
  have hall : closing.ids.Nodup := nodup_of_subperm _ _ hh hn
  refine ⟨hh, hall, fun id => ?_⟩
  rw [find?_eq]
  apply filter_id_eq
  rw [State.ids, State.forest, List.flatMap_append] at hall
  rw [Workspace.blocks, List.map_flatMap]
  exact (List.nodup_append.mp hall).1

/-- The blocks that a session makes, those of loads that fail included, have one number after the
other. Where nothing was there before and no copies come in, no two blocks have one identity. A
loaded tree has none twice, and a tree that is loaded from its own text is numbered in preorder. -/
theorem identities_unique (steps : List Step) (s : State) (start : Nat) :
    (∃ made, Builds (take steps s) made ∧ ((made start).map Block.id).Nodup ∧
      (made start).map Block.id = numbers start ((take steps s).run start).2 ∧
      (s.forest = [] → (∀ step ∈ steps, step.arrivals = []) →
        Unmistakable (made start) ((take steps s).run start).1)) ∧
    (∀ text next stop loaded, (Block.ofTreeText text).run next = (.ok loaded, stop) →
      loaded.ids.Nodup ∧ loaded.ids.Subperm (numbers next stop)) ∧
    ∀ (tree loaded : Block) (next stop : Nat), tree.Countable →
      (Block.ofTreeText tree.toTreeText).run next = (.ok loaded, stop) →
      loaded.ids = numbers next stop := by
  obtain ⟨made, hmade⟩ := constructs_take steps s
  have hnumbers := (hmade.consecutive _ made start).2
  have hdistinct : ((made start).map Block.id).Nodup := by
    rw [hnumbers]
    exact nodup_numbers _ _
  refine ⟨⟨made, hmade, hdistinct, hnumbers, ?_⟩, ?_, ?_⟩
  · intro hempty own
    have hheld := subperm_take steps s start own
    have hnone : s.ids = [] := by rw [State.ids, hempty, List.flatMap_nil]
    rw [hnone, List.append_nil, ← hnumbers] at hheld
    exact unmistakable_of_held _ _ hheld hdistinct
  · intro text next stop loaded h
    have hd := Block.draws_ofTreeText text next loaded stop h
    rw [List.append_nil] at hd
    exact ⟨nodup_of_subperm _ _ hd (nodup_numbers next stop), hd⟩
  · intro tree loaded next stop hc h
    exact Block.ids_ofTreeText_toTreeText tree loaded next stop hc h

/-- A counter of 64 bits starts over in the end. Up to there, and so in a session that makes no
more than 2 ^ 64 blocks, its words tell blocks apart as their numbers do. -/
theorem words_distinct (steps : List Step) (s : State) (start : Nat)
    (h : ((take steps s).run start).2 ≤ start + 2 ^ 64) :
    ∃ made, Builds (take steps s) made ∧
      ((made start).map fun block => UInt64.ofNat block.id.number).Nodup := by
  obtain ⟨made, hmade⟩ := constructs_take steps s
  refine ⟨made, hmade, ?_⟩
  have hnumbers := (hmade.consecutive _ made start).2
  have hwords : ((made start).map Block.id).map (fun id => UInt64.ofNat id.number) =
      (made start).map fun block => UInt64.ofNat block.id.number := List.map_map
  rw [← hwords, hnumbers]
  refine List.Nodup.map_on ?_ (nodup_numbers _ _)
  intro a ha b hb hab
  obtain ⟨m, hm, rfl⟩ := List.mem_map.mp ha
  obtain ⟨n, hn, rfl⟩ := List.mem_map.mp hb
  rw [List.mem_range'_1] at hm hn
  have hmod : m % 2 ^ 64 = n % 2 ^ 64 := by
    rw [← UInt64.toNat_ofNat', ← UInt64.toNat_ofNat', hab]
  exact congrArg BlockId.mk (by omega)

def twiceFilled : Xml.Element :=
  let leaf (field : String) := Document.ofTree (.scalar (.fresh { number := 0 } "e" field "S"))
  .mk "block" []
    [Document.ofHeader (.fresh { number := 0 } "e" "f" "T") (some 1),
      Document.input Document.fieldInput 0 (leaf "a"),
      Document.input Document.fieldInput 0 (leaf "b")] ""

theorem readable_twiceFilled : twiceFilled.Readable :=
  ⟨Document.plainTag_of_keys _ _ [] rfl (by decide) (by decide) (by decide), .inl rfl,
    Document.readable_ofHeader _ _, Document.readable_input _ _ _ (Document.readable_ofTree _),
    Document.readable_input _ _ _ (Document.readable_ofTree _), trivial⟩

theorem exists_loaded_twiceFilled :
    ∃ loaded stop, (Block.ofTreeText twiceFilled.toText).run 5 = (.ok loaded, stop) ∧
      loaded.ids = [{ number := 5 }, { number := 7 }] := by
  have hids : ((Document.loadTree twiceFilled).run 5).1.toOption.map Block.ids =
      some [{ number := 5 }, { number := 7 }] := by decide +kernel
  rw [Block.run_ofTreeText_toText _ readable_twiceFilled]
  generalize (Document.loadTree twiceFilled).run 5 = ran at hids
  obtain ⟨result, stop⟩ := ran
  cases result with
  | error fault => cases hids
  | ok loaded => exact ⟨loaded, stop, rfl, Option.some.inj hids⟩

theorem identities_unique_twiceFilled :
    let s : State := { cache := .empty, workspace := .empty, hand := [] }
    let steps : List Step :=
      [.loadTree twiceFilled.toText, .event (.rooted 0), .newScalar "e" "c" "S"]
    (∃ made, Builds (take steps s) made ∧
        Unmistakable (made 5) ((take steps s).run 5).1) ∧
      ∃ loaded stop, (Block.ofTreeText twiceFilled.toText).run 5 = (.ok loaded, stop) ∧
        loaded.ids = [{ number := 5 }, { number := 7 }] ∧ loaded.ids.Nodup ∧
        ∃ kept after, Block.mixedTree.Countable ∧
          (Block.ofTreeText Block.mixedTree.toTreeText).run stop = (.ok kept, after) ∧
          kept.ids = numbers stop after := by
  intro s steps
  obtain ⟨⟨made, hmade, -, -, hsession⟩, hloaded, hsaved⟩ := identities_unique steps s 5
  have hown : ∀ step ∈ steps, step.arrivals = [] := by simp [steps, Step.arrivals, Event.arrivals]
  obtain ⟨loaded, stop, hrun, hids⟩ := exists_loaded_twiceFilled
  have hc : Block.mixedTree.Countable := by unfold Block.Countable; decide
  obtain ⟨kept, hk⟩ := (Block.ofTreeText_toTreeText Block.mixedTree stop hc).1.mpr (by decide)
  obtain ⟨⟨result, after⟩, hran⟩ :
      ∃ ran, (Block.ofTreeText Block.mixedTree.toTreeText).run stop = ran := ⟨_, rfl⟩
  rw [hran] at hk
  cases hk
  exact ⟨⟨made, hmade, hsession rfl hown⟩, loaded, stop, hrun, hids,
    (hloaded twiceFilled.toText 5 stop loaded hrun).1, kept, after, hc, hran,
    hsaved Block.mixedTree kept stop after hc hran⟩

end Lifetime

end QueryBlocks
