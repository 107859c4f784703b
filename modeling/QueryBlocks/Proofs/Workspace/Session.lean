import QueryBlocks.Proofs.Block.Marks
import QueryBlocks.Proofs.Workspace.Pass

/-!
# Sessions

A session edits blocks inside and outside of the workspace, moves trees between the two, changes
its schemas and checks blocks, in any order. Each moment evolves from the one before: apart from
trees that arrive, the marks of the blocks are those from before, some of them checked and some
lost.
-/

set_option autoImplicit false

namespace QueryBlocks

open Block (forestMarks Edited Moves)

namespace SchemaCache

variable (cache : SchemaCache)

def found (header : Header) : List (BlockId × Schema) :=
  (cache.get? header.endpoint).toList.map fun schema => (header.id, schema)

def checkMark (mark : Mark) : Mark := (mark.1, (cache.revalidateHeader mark.1 mark.2).2)

theorem revalidateHeader_parameters (isObject : Bool) (header : Header) :
    (cache.revalidateHeader isObject { header with parameters := [] }).2 =
      { (cache.revalidateHeader isObject header).2 with parameters := [] } := by
  have ht (schema : Schema) :
      schema.typeOf isObject { header with parameters := [] } = schema.typeOf isObject header :=
    rfl
  unfold revalidateHeader
  cases cache.get? header.endpoint with
  | none => rfl
  | some schema =>
    simp only [ht]
    cases schema.typeOf isObject header <;> rfl

/-- A check of a block does to its mark what it does to the block. -/
theorem mark_revalidate (block : Block) :
    (cache.revalidate block).2.mark = cache.checkMark block.mark := by
  rw [Block.mark, isObject_revalidate, header_revalidate, checkMark, Block.mark]
  exact congrArg (Prod.mk _) (cache.revalidateHeader_parameters _ _).symm

theorem marks_revalidate (block : Block) :
    (cache.revalidate block).2.marks =
      cache.checkMark block.mark :: forestMarks block.slots.reduceOption := by
  have hs : (cache.revalidate block).2.slots = block.slots := by cases block <;> rfl
  rw [Block.marks_eq, mark_revalidate, hs]

theorem marks_pass (endpoint : String) (forest : List Block) :
    forestMarks (forest.map (Block.mapHeaders (cache.passHeader endpoint))) =
      (forestMarks forest).map fun mark =>
        if mark.2.endpoint = endpoint then cache.checkMark mark else mark := by
  rw [Block.forestMarks_eq, Block.forestMarks_eq, Block.preorder_mapHeaders_forest, List.map_map,
    List.map_map]
  apply List.map_congr_left
  intro block _
  have he : block.mark.2.endpoint = block.header.endpoint := rfl
  rw [Function.comp_apply, Function.comp_apply, he, Block.mark, Block.isObject_mapHeaders,
    Block.header_mapHeaders, passHeader]
  split
  · exact congrArg (Prod.mk _) (cache.revalidateHeader_parameters _ _).symm
  · rfl

end SchemaCache

namespace Lifetime

/-- A session. The hand holds the trees that are outside of the workspace. -/
structure State where
  cache : SchemaCache
  workspace : Workspace
  hand : List Block

def State.forest (s : State) : List Block := s.workspace.roots ++ s.hand

def State.blocks (s : State) : List Block := s.forest.flatMap Block.preorder

inductive Spot where
  | root (root : Nat) (path : List Nat)
  | hand (tree : Nat) (path : List Nat)
  | named (id : BlockId)

def State.editAt? {ρ : Type} (s : State) (f : Block → ρ × Block) : Spot → Option (ρ × State)
  | .root root path =>
    (Block.editForest? f root path s.workspace.roots).map fun (result, roots) =>
      (result, { s with workspace := { s.workspace with roots } })
  | .hand tree path =>
    (Block.editForest? f tree path s.hand).map fun (result, hand) => (result, { s with hand })
  | .named id =>
    (s.workspace.mutate? id f).map fun (result, workspace) => (result, { s with workspace })

inductive Event where
  | inserted (endpoint : String) (schema : Schema)
  | removed (endpoint : String)
  | loaded (endpoint : String) (answer : Answer)
  | checked (spot : Spot)
  | synced (endpoint : String)
  | applied (endpoint : String) (outcome : FetchOutcome)
  | refreshed (endpoint : String) (answer : Answer)
  | edited (spot : Spot) (edit : Block.Edit)
  /-- A tree of the hand is put into the block at a spot. -/
  | placed (tree : Nat) (spot : Spot) (placing : Block.Placing)
  /-- A tree of the hand becomes a root. -/
  | rooted (tree : Nat)
  /-- A tree from elsewhere comes to the hand. -/
  | arrived (tree : Block)

abbrev Trace := List (BlockId × Schema)

def check (cache : SchemaCache) (block : Block) : Trace × Block :=
  (cache.found block.header, (cache.revalidate block).2)

def passTrace (cache : SchemaCache) (endpoint : String) (workspace : Workspace) : Trace :=
  (workspace.liveBlocks endpoint).flatMap fun block => cache.found block.header

def outcomeTrace (cache : SchemaCache) (endpoint : String) (outcome : FetchOutcome)
    (workspace : Workspace) : Trace :=
  match outcome.toExcept with
  | .ok _ => passTrace cache endpoint workspace
  | .error _ => []

def State.receive (s : State) (trees : List Block) : State := { s with hand := s.hand ++ trees }

def State.edit (s : State) (spot : Spot) (f : Block → List Block × Block) : State :=
  match s.editAt? f spot with
  | some (trees, after) => after.receive trees
  | none => s

def State.place (s : State) (tree : Nat) (spot : Spot) (placing : Block.Placing) : State :=
  match s.hand[tree]? with
  | some block =>
    match { s with hand := s.hand.eraseIdx tree }.editAt? (placing.apply block) spot with
    | some (trees, after) => after.receive trees
    | none => s
  | none => s

def State.plant (s : State) (tree : Nat) : State :=
  match s.hand[tree]? with
  | some block =>
    { s with
      workspace := s.workspace.addRoot block
      hand := s.hand.eraseIdx tree }
  | none => s

/-- What an event does, and the checks in it that found a schema. An event whose spot or tree
does not exist does nothing. -/
def perform (s : State) : Event → Trace × State
  | .inserted endpoint schema => ([], { s with cache := s.cache.insert endpoint schema })
  | .removed endpoint => ([], { s with cache := s.cache.remove endpoint })
  | .loaded endpoint answer => ([], { s with cache := (s.cache.load endpoint answer).2 })
  | .checked spot => (s.editAt? (check s.cache) spot).getD ([], s)
  | .synced endpoint =>
    (passTrace s.cache endpoint s.workspace,
      { s with workspace := (s.cache.syncEndpoint endpoint s.workspace).2 })
  | .applied endpoint outcome =>
    (outcomeTrace s.cache endpoint outcome s.workspace,
      { s with workspace := (s.cache.apply endpoint outcome s.workspace).2 })
  | .refreshed endpoint answer =>
    let (outcome, cache) := s.cache.load endpoint answer
    (outcomeTrace cache endpoint outcome s.workspace,
      { s with
        cache := (s.cache.refresh endpoint answer s.workspace).2.1
        workspace := (s.cache.refresh endpoint answer s.workspace).2.2 })
  | .edited spot edit => ([], s.edit spot edit.apply)
  | .placed tree spot placing => ([], s.place tree spot placing)
  | .rooted tree => ([], s.plant tree)
  | .arrived tree => ([], s.receive [tree])

def Event.arrivals : Event → List Block
  | .arrived tree => [tree]
  | _ => []

def run : List Event → State → Trace × State
  | [], s => ([], s)
  | event :: events, s =>
    ((perform s event).1 ++ (run events (perform s event).2).1,
      (run events (perform s event).2).2)

abbrev Flagged := Bool × Mark

def Flagged.after (cache : SchemaCache) (flagged : Flagged) : Mark :=
  if flagged.1 then cache.checkMark flagged.2 else flagged.2

def Flagged.trace (cache : SchemaCache) (flagged : Flagged) : Trace :=
  if flagged.1 then cache.found flagged.2.2 else []

/-- Of the marks before none is there twice afterwards, and those that are left have been checked
at most once. -/
def Evolves (cache : SchemaCache) (trace : Trace) (before after : List Mark) : Prop :=
  ∃ flagged : List Flagged,
    (flagged.map Prod.snd).Subperm before ∧
    after.Perm (flagged.map (Flagged.after cache)) ∧
    trace = flagged.flatMap (Flagged.trace cache)

section

variable (cache : SchemaCache)

theorem map_unflagged (marks : List Mark) :
    (marks.map (Prod.mk false)).map (Flagged.after cache) = marks := by
  rw [List.map_map]
  exact List.map_id marks

theorem trace_unflagged (marks : List Mark) :
    (marks.map (Prod.mk false)).flatMap (Flagged.trace cache) = [] := by
  rw [List.flatMap_map, List.flatMap_eq_nil_iff]
  intro mark _
  rfl

theorem snd_flagged (flag : Mark → Bool) (marks : List Mark) :
    (marks.map fun mark => (flag mark, mark)).map Prod.snd = marks := by
  rw [List.map_map]
  exact List.map_id marks

theorem evolves_moved (before after : List Mark) (h : after.Subperm before) :
    Evolves cache [] before after := by
  refine ⟨after.map (Prod.mk false), ?_, ?_, (trace_unflagged cache after).symm⟩
  · rw [snd_flagged]
    exact h
  · rw [map_unflagged]

theorem evolves_checked (trace : Trace) (before after : List Mark)
    (h : Edited (check cache) trace before after) : Evolves cache trace before after := by
  obtain ⟨block, rest, hb, ha, rfl⟩ := h
  refine ⟨(true, block.mark) ::
    (forestMarks block.slots.reduceOption ++ rest).map (Prod.mk false), ?_, ?_, ?_⟩
  · rw [List.map_cons, snd_flagged, ← List.cons_append, ← Block.marks_eq]
    exact hb.symm.subperm
  · rw [List.map_cons, map_unflagged, ← List.cons_append]
    rw [check, cache.marks_revalidate block] at ha
    exact ha
  · rw [List.flatMap_cons, trace_unflagged, List.append_nil]
    rfl

theorem flatMap_filter {α β : Type} (keep : α → Bool) (f : α → List β) (entries : List α) :
    (entries.filter keep).flatMap f =
      entries.flatMap fun entry => if keep entry then f entry else [] := by
  induction entries with
  | nil => rfl
  | cons entry entries ih =>
    rw [List.filter_cons, List.flatMap_cons, ← ih]
    split
    · rw [List.flatMap_cons]
    · rfl

theorem evolves_pass (endpoint : String) (workspace : Workspace) (hand : List Block) :
    Evolves cache (passTrace cache endpoint workspace) (forestMarks (workspace.roots ++ hand))
      (forestMarks ((cache.syncEndpoint endpoint workspace).2.roots ++ hand)) := by
  -- a pass checks the blocks of its endpoint, but none of the hand
  refine ⟨(forestMarks workspace.roots).map (fun mark => (mark.2.endpoint == endpoint, mark)) ++
    (forestMarks hand).map (Prod.mk false), ?_, ?_, ?_⟩
  · rw [List.map_append, snd_flagged, snd_flagged, Block.forestMarks_append]
  · rw [List.map_append, map_unflagged, cache.roots_pass, Block.forestMarks_append,
      cache.marks_pass, List.map_map]
    refine List.Perm.of_eq (congrArg (· ++ forestMarks hand) (List.map_congr_left ?_))
    intro mark _
    simp only [Function.comp_apply, Flagged.after, beq_iff_eq]
  · rw [List.flatMap_append, trace_unflagged, List.append_nil, passTrace, Workspace.liveBlocks,
      Workspace.blocks, Block.forestMarks_eq, List.flatMap_map, List.flatMap_map,
      flatMap_filter]
    rfl

theorem evolves_outcome (endpoint : String) (outcome : FetchOutcome) (workspace : Workspace)
    (hand : List Block) :
    Evolves cache (outcomeTrace cache endpoint outcome workspace)
      (forestMarks (workspace.roots ++ hand))
      (forestMarks ((cache.apply endpoint outcome workspace).2.roots ++ hand)) := by
  cases outcome with
  | loaded schema => exact evolves_pass cache endpoint workspace hand
  | transportFailed cause => exact evolves_moved cache _ _ (List.Subperm.refl _)
  | schemaErrors cause => exact evolves_moved cache _ _ (List.Subperm.refl _)

end

theorem edited_editAt? {ρ : Type} (f : Block → ρ × Block) (s after : State) (spot : Spot)
    (result : ρ) (h : s.editAt? f spot = some (result, after)) :
    Edited f result (forestMarks s.forest) (forestMarks after.forest) := by
  cases spot with
  | root root path =>
    obtain ⟨⟨r, roots⟩, he, h⟩ := Option.map_eq_some_iff.mp h
    cases h
    exact Block.edited_among f result _ _ _ _ (forestMarks s.hand)
      (Block.edited_editForest? f root path s.workspace.roots roots result he)
      (List.Perm.of_eq (Block.forestMarks_append _ _))
      (List.Perm.of_eq (Block.forestMarks_append _ _))
  | hand tree path =>
    obtain ⟨⟨r, hand⟩, he, h⟩ := Option.map_eq_some_iff.mp h
    cases h
    have hcomm (hand : List Block) : (forestMarks (s.workspace.roots ++ hand)).Perm
        (forestMarks hand ++ forestMarks s.workspace.roots) := by
      rw [Block.forestMarks_append]
      exact List.perm_append_comm
    exact Block.edited_among f result _ _ _ _ (forestMarks s.workspace.roots)
      (Block.edited_editForest? f tree path s.hand hand result he) (hcomm s.hand) (hcomm hand)
  | named id =>
    obtain ⟨⟨r, workspace⟩, hm, h⟩ := Option.map_eq_some_iff.mp h
    cases h
    obtain ⟨⟨r, roots⟩, he, h⟩ := Option.map_eq_some_iff.mp hm
    cases h
    exact Block.edited_among f result _ _ _ _ (forestMarks s.hand)
      (Block.edited_editRoots? f id s.workspace.roots roots result he)
      (List.Perm.of_eq (Block.forestMarks_append _ _))
      (List.Perm.of_eq (Block.forestMarks_append _ _))

theorem forestMarks_receive (s : State) (trees : List Block) :
    (forestMarks (s.receive trees).forest).Perm (forestMarks trees ++ forestMarks s.forest) := by
  rw [State.receive, State.forest, ← List.append_assoc, Block.forestMarks_append]
  exact List.perm_append_comm

theorem subperm_received (taken : List Block) (f : Block → List Block × Block)
    (hf : ∀ block, Moves taken block (f block).1 (f block).2) (s after : State) (spot : Spot)
    (released : List Block) (h : s.editAt? f spot = some (released, after)) :
    (forestMarks (after.receive released).forest).Subperm
      (forestMarks taken ++ forestMarks s.forest) :=
  (forestMarks_receive after released).subperm.trans
    (Block.subperm_edited taken f hf released _ _ (edited_editAt? f s after spot released h))

/-- The marks of a session apart from a tree of the hand. -/
theorem forestMarks_eraseIdx (s : State) (tree : Nat) (block : Block)
    (h : s.hand[tree]? = some block) :
    (forestMarks [block] ++ forestMarks (s.workspace.roots ++ s.hand.eraseIdx tree)).Perm
      (forestMarks s.forest) := by
  have hp : ([block] ++ (s.workspace.roots ++ s.hand.eraseIdx tree)).Perm s.forest :=
    (List.perm_append_comm_assoc [block] s.workspace.roots _).trans
      ((Block.perm_eraseIdx s.hand tree block h).symm.append_left _)
  rw [← Block.forestMarks_append]
  exact Block.forestMarks_perm _ _ hp

theorem subperm_edit (s : State) (spot : Spot) (edit : Block.Edit) :
    (forestMarks (s.edit spot edit.apply).forest).Subperm (forestMarks s.forest) := by
  rw [State.edit]
  cases h : s.editAt? edit.apply spot with
  | none => exact List.Subperm.refl _
  | some found =>
    exact subperm_received [] edit.apply (Block.moves_edit edit) s found.2 spot found.1 h

theorem subperm_place (s : State) (tree : Nat) (spot : Spot) (placing : Block.Placing) :
    (forestMarks (s.place tree spot placing).forest).Subperm (forestMarks s.forest) := by
  rw [State.place]
  cases ht : s.hand[tree]? with
  | none => exact List.Subperm.refl _
  | some block =>
    simp only
    cases h : { s with hand := s.hand.eraseIdx tree }.editAt? (placing.apply block) spot with
    | none => exact List.Subperm.refl _
    | some found =>
      have hm := subperm_received [block] (placing.apply block)
        (Block.moves_placing block placing) _ found.2 spot found.1 h
      exact hm.trans (forestMarks_eraseIdx s tree block ht).subperm

theorem subperm_plant (s : State) (tree : Nat) :
    (forestMarks (s.plant tree).forest).Subperm (forestMarks s.forest) := by
  rw [State.plant]
  cases ht : s.hand[tree]? with
  | none => exact List.Subperm.refl _
  | some block =>
    have hp : (s.workspace.roots ++ [block] ++ s.hand.eraseIdx tree).Perm s.forest := by
      rw [List.append_assoc]
      exact (Block.perm_eraseIdx s.hand tree block ht).symm.append_left _
    exact (Block.forestMarks_perm _ _ hp).subperm

/-- One event: apart from what arrives, no mark is there that was not there before, and what is
checked is what the trace says. -/
theorem evolves_perform (s : State) (event : Event) :
    ∃ cache, Evolves cache (perform s event).1
      (forestMarks event.arrivals ++ forestMarks s.forest)
      (forestMarks (perform s event).2.forest) := by
  have hstays (cache : SchemaCache) : Evolves cache [] (forestMarks s.forest)
      (forestMarks s.forest) := evolves_moved cache _ _ (List.Subperm.refl _)
  cases event with
  | inserted endpoint schema => exact ⟨s.cache, hstays s.cache⟩
  | removed endpoint => exact ⟨s.cache, hstays s.cache⟩
  | loaded endpoint answer => exact ⟨s.cache, hstays s.cache⟩
  | checked spot =>
    refine ⟨s.cache, ?_⟩
    rw [perform]
    cases h : s.editAt? (check s.cache) spot with
    | none => exact hstays s.cache
    | some found =>
      exact evolves_checked s.cache found.1 _ _ (edited_editAt? _ s found.2 spot found.1 h)
  | synced endpoint => exact ⟨s.cache, evolves_pass s.cache endpoint s.workspace s.hand⟩
  | applied endpoint outcome =>
    exact ⟨s.cache, evolves_outcome s.cache endpoint outcome s.workspace s.hand⟩
  | refreshed endpoint answer =>
    exact ⟨(s.cache.load endpoint answer).2, evolves_outcome _ endpoint _ s.workspace s.hand⟩
  | edited spot edit =>
    exact ⟨s.cache, evolves_moved s.cache _ _ (subperm_edit s spot edit)⟩
  | placed tree spot placing =>
    exact ⟨s.cache, evolves_moved s.cache _ _ (subperm_place s tree spot placing)⟩
  | rooted tree => exact ⟨s.cache, evolves_moved s.cache _ _ (subperm_plant s tree)⟩
  | arrived tree =>
    exact ⟨s.cache, evolves_moved s.cache _ _ (forestMarks_receive s [tree]).subperm⟩

end Lifetime

end QueryBlocks
