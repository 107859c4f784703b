import QueryBlocks.Proofs.Block.Numbering
import QueryBlocks.Proofs.Workspace.Session

/-!
# The lifetime of a block

From the moment when it is made, a block's state is the verdict of the latest check that found a
schema, and the description of its type is that of the latest schema which it fitted. Nothing else
that happens in a session changes either of them, and nothing changes what the block selects.
-/

set_option autoImplicit false

namespace QueryBlocks

open Block (forestMarks)

def Block.fitting? (n : Block) (schema : Schema) : Option TypeDef :=
  (schema.type? n.header.typeName).filter fun type => decide (type.kind = .object) = n.isObject

theorem Block.fitting?_eq (n : Block) (schema : Schema) :
    n.fitting? schema = (schema.typeOf n.isObject n.header).toOption := by
  rw [fitting?, Schema.typeOf]
  cases schema.type? n.header.typeName with
  | none => rfl
  | some type =>
    simp only [Option.filter_some, decide_eq_true_eq]
    split
    · rfl
    · rfl

namespace Lifetime

def history (id : BlockId) (trace : Trace) : List Schema :=
  (trace.filter fun entry => entry.1 = id).map Prod.snd

inductive New : Option String → Block → Prop where
  | scalar (endpoint field typeName : String) (next : Nat) :
    New none ((Block.newScalar endpoint field typeName).run next).1
  | object (endpoint field typeName : String) (slotCount next : Nat) :
    New none ((Block.newObject endpoint field typeName slotCount).run next).1
  | template (template : Template) (next : Nat) :
    New template.description ((Block.ofTemplate template).run next).1
  | parameter (own : Option String) (block : Block) (name typeName : String)
    (h : New own block) :
    New own (block.mapHeader fun header => header.addParameter name typeName)

/-- How a block stands that was made as `n`, after checks that found the schemas of a history. -/
structure Standing (own : Option String) (n : Block) (history : List Schema) (b : Block) :
    Prop where
  endpoint : b.header.endpoint = n.header.endpoint
  field : b.header.field = n.header.field
  typeName : b.header.typeName = n.header.typeName
  shape : b.isObject = n.isObject
  unchecked : history = [] → b.header.state = .unbound
  removed : ∀ earlier schema, history = earlier ++ [schema] →
    schema.type? n.header.typeName = none →
      b.header.state = .stale (.typeRemoved n.header.endpoint n.header.typeName)
  bound : ∀ earlier schema type, history = earlier ++ [schema] →
    schema.type? n.header.typeName = some type → (type.kind = .object ↔ n.isObject = true) →
      b.header.state = .bound
  mismatched : ∀ earlier schema type, history = earlier ++ [schema] →
    schema.type? n.header.typeName = some type → ¬(type.kind = .object ↔ n.isObject = true) →
      b.header.state = .stale (.kindMismatch n.header.typeName n.isObject type.kind)
  /-- The type that the block fitted last is the one whose description it has. -/
  typeDescription : b.header.typeDescription =
    (history.filterMap n.fitting?).getLast?.bind TypeDef.description
  tooltip : b.header.tooltip = own.or b.header.typeDescription

def stateAfter (n : Block) (history : List Schema) : BlockState :=
  match history.getLast? with
  | none => .unbound
  | some schema => schema.stateOf n.isObject n.header

def describedBy (n : Block) (history : List Schema) : Option String :=
  (history.filterMap n.fitting?).getLast?.bind TypeDef.description

def markOf (n : Block) (state : BlockState) (typeDescription : Option String) : Mark :=
  (n.isObject, { n.header with parameters := [], state, typeDescription })

def expected (n : Block) (history : List Schema) : Mark :=
  markOf n (stateAfter n history) (describedBy n history)

section

variable (cache : SchemaCache) (schema : Schema) (n : Block) (state : BlockState)
  (typeDescription : Option String)

theorem revalidateHeader_markOf (hs : cache.get? n.header.endpoint = some schema) :
    (cache.revalidateHeader n.isObject (markOf n state typeDescription).2).2 =
      match schema.typeOf n.isObject n.header with
      | .error condition => (markOf n (.stale condition) typeDescription).2
      | .ok type => (markOf n .bound type.description).2 := by
  have he : (markOf n state typeDescription).2.endpoint = n.header.endpoint := rfl
  have ht : schema.typeOf n.isObject (markOf n state typeDescription).2 =
      schema.typeOf n.isObject n.header := rfl
  simp only [SchemaCache.revalidateHeader, he, hs, ht]
  cases schema.typeOf n.isObject n.header with
  | error condition => rfl
  | ok type => rfl

end

theorem stateAfter_concat (n : Block) (history : List Schema) (schema : Schema) :
    stateAfter n (history ++ [schema]) = schema.stateOf n.isObject n.header := by
  rw [stateAfter, List.getLast?_concat]

theorem describedBy_concat (n : Block) (history : List Schema) (schema : Schema) :
    describedBy n (history ++ [schema]) =
      match schema.typeOf n.isObject n.header with
      | .error _ => describedBy n history
      | .ok type => type.description := by
  have hf := n.fitting?_eq schema
  rw [describedBy, List.filterMap_append]
  cases h : schema.typeOf n.isObject n.header with
  | error condition =>
    rw [h] at hf
    rw [List.filterMap_cons_none hf, List.filterMap_nil, List.append_nil]
    rfl
  | ok type =>
    rw [h] at hf
    rw [List.filterMap_cons_some hf, List.filterMap_nil, List.getLast?_concat]
    rfl

/-- A check takes the mark of one history to that of the next. -/
theorem checkMark_expected (cache : SchemaCache) (n : Block) (history : List Schema) :
    cache.checkMark (expected n history) =
      expected n (history ++ (cache.found n.header).map Prod.snd) := by
  cases hs : cache.get? n.header.endpoint with
  | none =>
    rw [SchemaCache.checkMark, cache.revalidateHeader_unknown _ (expected n history).2 hs,
      SchemaCache.found, hs]
    exact congrArg (expected n) (List.append_nil history).symm
  | some schema =>
    rw [SchemaCache.checkMark, SchemaCache.found, hs]
    change (n.isObject, (cache.revalidateHeader n.isObject (expected n history).2).2) =
      expected n (history ++ [schema])
    rw [expected, revalidateHeader_markOf cache schema n _ _ hs, expected, stateAfter_concat,
      describedBy_concat, Schema.stateOf]
    cases schema.typeOf n.isObject n.header with
    | error condition => rfl
    | ok type => rfl

/-- At most one mark has the identity of `n`, and it is the one that the history asks for. -/
structure Tracked (n : Block) (history : List Schema) (marks : List Mark) : Prop where
  alone : (marks.filter fun mark => mark.2.id = n.id).length ≤ 1
  asked : ∀ mark ∈ marks, mark.2.id = n.id → mark = expected n history

theorem history_append (id : BlockId) (xs ys : Trace) :
    history id (xs ++ ys) = history id xs ++ history id ys := by
  rw [history, List.filter_append, List.map_append]
  rfl

theorem history_flagged (cache : SchemaCache) (id : BlockId) (flagged : Flagged) :
    history id (flagged.trace cache) =
      if flagged.2.2.id = id then (flagged.trace cache).map Prod.snd else [] := by
  have h : ∀ entry ∈ flagged.trace cache, entry.1 = flagged.2.2.id := by
    intro entry he
    rw [Flagged.trace] at he
    split at he
    · obtain ⟨schema, -, rfl⟩ := List.mem_map.mp he
      rfl
    · cases he
  split
  · next hid =>
    rw [history, List.filter_eq_self.mpr]
    intro entry he
    exact decide_eq_true ((h entry he).trans hid)
  · next hid =>
    rw [history, List.filter_eq_nil_iff.mpr]
    · rfl
    · intro entry he hd
      exact hid ((h entry he).symm.trans (of_decide_eq_true hd))

/-- What a step finds for an identity is what it finds for the marks of that identity. -/
theorem history_flatMap (cache : SchemaCache) (id : BlockId) (flagged : List Flagged) :
    history id (flagged.flatMap (Flagged.trace cache)) =
      (flagged.filter fun entry => entry.2.2.id = id).flatMap fun entry =>
        (entry.trace cache).map Prod.snd := by
  induction flagged with
  | nil => rfl
  | cons entry rest ih =>
    rw [List.flatMap_cons, history_append, history_flagged, ih, List.filter_cons]
    by_cases hid : entry.2.2.id = id
    · simp only [hid, if_true, decide_true, List.flatMap_cons]
    · simp only [hid, if_false, decide_false, List.nil_append, Bool.false_eq_true]

theorem id_checkMark (cache : SchemaCache) (mark : Mark) :
    (cache.checkMark mark).2.id = mark.2.id := by
  obtain ⟨state, typeDescription, h⟩ := cache.revalidateHeader_frame mark.1 mark.2
  rw [SchemaCache.checkMark, h]

theorem id_after (cache : SchemaCache) (flagged : Flagged) :
    (flagged.after cache).2.id = flagged.2.2.id := by
  rw [Flagged.after]
  split
  · exact id_checkMark cache flagged.2
  · rfl

theorem filter_after (cache : SchemaCache) (id : BlockId) (flagged : List Flagged) :
    (flagged.map (Flagged.after cache)).filter (fun mark => mark.2.id = id) =
      (flagged.filter fun entry => entry.2.2.id = id).map (Flagged.after cache) := by
  rw [List.filter_map]
  congr 2
  funext entry
  rw [Function.comp_apply, id_after]

/-- One event keeps the mark of `n` in step with what was found for it. -/
theorem tracked_evolves (cache : SchemaCache) (n : Block) (earlier : List Schema) (trace : Trace)
    (before after : List Mark) (h : Tracked n earlier before)
    (he : Evolves cache trace before after) :
    Tracked n (earlier ++ history n.id trace) after := by
  obtain ⟨flagged, hb, ha, rfl⟩ := he
  have hmine : (flagged.filter fun entry => entry.2.2.id = n.id).length ≤ 1 := by
    have hle := Nat.le_trans (hb.filter fun mark => mark.2.id = n.id).length_le h.alone
    rwa [List.filter_map, List.length_map] at hle
  constructor
  · rw [(ha.filter _).length_eq, filter_after, List.length_map]
    exact hmine
  · intro mark hm hid
    obtain ⟨entry, hentry, rfl⟩ := List.mem_map.mp (ha.subset hm)
    rw [id_after] at hid
    have hbefore : entry.2 = expected n earlier :=
      h.asked entry.2 (hb.subset (List.mem_map_of_mem hentry)) hid
    -- no other check of this step counts for `n`
    have hone : (flagged.filter fun entry => entry.2.2.id = n.id) = [entry] := by
      have hmem : entry ∈ flagged.filter fun entry => entry.2.2.id = n.id :=
        List.mem_filter.mpr ⟨hentry, decide_eq_true hid⟩
      have hlength := Nat.le_antisymm hmine (List.length_pos_of_mem hmem)
      obtain ⟨only, honly⟩ := List.length_eq_one_iff.mp hlength
      rw [honly, List.mem_singleton] at hmem
      rw [honly, hmem]
    rw [history_flatMap, hone, List.flatMap_singleton, Flagged.after, Flagged.trace]
    by_cases hf : entry.1 = true
    · rw [if_pos hf, if_pos hf, hbefore, checkMark_expected]
      rfl
    · rw [if_neg hf, if_neg hf, hbefore]
      exact congrArg (expected n) (List.append_nil earlier).symm

theorem tracked_subperm (n : Block) (earlier : List Schema) (before after : List Mark)
    (h : Tracked n earlier before) (hs : after.Subperm before) : Tracked n earlier after := by
  constructor
  · exact Nat.le_trans (hs.filter _).length_le h.alone
  · intro mark hm
    exact h.asked mark (hs.subset hm)

theorem tracked_arrivals (n : Block) (earlier : List Schema) (arrivals : List Block)
    (marks : List Mark) (h : Tracked n earlier marks)
    (ha : ∀ tree ∈ arrivals, ∀ b ∈ tree.preorder, b.id ≠ n.id) :
    Tracked n earlier (forestMarks arrivals ++ marks) := by
  have hother : ∀ mark ∈ forestMarks arrivals, mark.2.id ≠ n.id := by
    intro mark hm
    rw [Block.forestMarks_eq] at hm
    obtain ⟨b, hb, rfl⟩ := List.mem_map.mp hm
    obtain ⟨tree, ht, hb⟩ := List.mem_flatMap.mp hb
    exact ha tree ht b hb
  constructor
  · have hnone : ((forestMarks arrivals).filter fun mark => mark.2.id = n.id) = [] := by
      apply List.filter_eq_nil_iff.mpr
      intro mark hm hid
      exact hother mark hm (of_decide_eq_true hid)
    rw [List.filter_append, hnone, List.nil_append]
    exact h.alone
  · intro mark hm hid
    rcases List.mem_append.mp hm with hm | hm
    · exact absurd hid (hother mark hm)
    · exact h.asked mark hm hid

/-- No tree that arrives in a run holds a block of `n`'s identity. Numbering sees to that for all
blocks but copies of `n`. -/
def Strangers (n : Block) (events : List Event) : Prop :=
  ∀ tree, Event.arrived tree ∈ events → ∀ b ∈ tree.preorder, b.id ≠ n.id

theorem tracked_perform (n : Block) (earlier : List Schema) (s : State) (event : Event)
    (h : Tracked n earlier (forestMarks s.forest)) (ha : Strangers n [event]) :
    Tracked n (earlier ++ history n.id (perform s event).1)
      (forestMarks (perform s event).2.forest) := by
  obtain ⟨cache, he⟩ := evolves_perform s event
  refine tracked_evolves cache n earlier _ _ _ (tracked_arrivals n earlier _ _ h ?_) he
  intro tree ht
  cases event with
  | arrived other => exact ha tree (List.mem_singleton.mp ht ▸ List.mem_singleton_self _)
  | _ => cases ht

theorem tracked_run (n : Block) (events : List Event) (earlier : List Schema) (s : State)
    (h : Tracked n earlier (forestMarks s.forest)) (ha : Strangers n events) :
    Tracked n (earlier ++ history n.id (run events s).1)
      (forestMarks (run events s).2.forest) := by
  induction events generalizing earlier s with
  | nil =>
    rw [run, history, List.filter_nil, List.map_nil, List.append_nil]
    exact h
  | cons event events ih =>
    have hstep := tracked_perform n earlier s event h fun tree ht =>
      ha tree (List.mem_cons.mpr (.inl (List.mem_singleton.mp ht)))
    have hrest := ih _ (perform s event).2 hstep fun tree ht => ha tree (List.mem_cons_of_mem _ ht)
    rw [run, history_append, ← List.append_assoc]
    exact hrest

theorem New.header {own : Option String} {n : Block} (h : New own n) :
    n.header.state = .unbound ∧ n.header.description = own ∧ n.header.typeDescription = none := by
  induction h with
  | scalar endpoint field typeName next => exact ⟨rfl, rfl, rfl⟩
  | object endpoint field typeName slotCount next => exact ⟨rfl, rfl, rfl⟩
  | template template next =>
    rw [template.run_ofTemplate, template.header_block]
    exact ⟨rfl, rfl, rfl⟩
  | parameter own block name typeName h ih =>
    cases block with
    | scalar header => exact ih
    | object header slots => exact ih

/-- A new block has no blocks below it. -/
theorem New.slots {own : Option String} {n : Block} (h : New own n) :
    n.slots.reduceOption = [] := by
  induction h with
  | scalar endpoint field typeName next => rfl
  | object endpoint field typeName slotCount next => exact List.reduceOption_replicate_none
  | template template next =>
    rw [template.run_ofTemplate, Template.block]
    split <;> rfl
  | parameter own block name typeName h ih =>
    cases block with
    | scalar header => rfl
    | object header slots => exact ih

theorem New.marks {own : Option String} {n : Block} (h : New own n) :
    n.marks = [expected n []] := by
  rw [Block.marks_eq, h.slots, Block.mark, expected, markOf]
  obtain ⟨hs, -, ht⟩ := h.header
  have hstate : stateAfter n [] = n.header.state := hs.symm
  have htype : describedBy n [] = n.header.typeDescription := ht.symm
  rw [hstate, htype]
  rfl

theorem tracked_new (own : Option String) (n : Block) (s : State) (others : List Block)
    (hn : New own n) (hs : s.hand = n :: others)
    (ho : ∀ tree ∈ s.workspace.roots ++ others, ∀ b ∈ tree.preorder, b.id ≠ n.id) :
    Tracked n [] (forestMarks s.forest) := by
  have hself : Tracked n [] (forestMarks [n]) := by
    have hmarks : forestMarks [n] = [expected n []] := by
      rw [forestMarks, List.flatMap_singleton, hn.marks]
    rw [hmarks]
    constructor
    · exact List.length_filter_le _ _
    · intro mark hm _
      exact List.mem_singleton.mp hm
  have hp : s.forest.Perm (s.workspace.roots ++ others ++ [n]) := by
    rw [State.forest, hs, List.append_assoc]
    exact (List.perm_append_singleton n others).symm.append_left _
  have hall := tracked_arrivals n [] _ _ hself ho
  rw [← Block.forestMarks_append] at hall
  exact tracked_subperm n [] _ _ hall (Block.forestMarks_perm _ _ hp).subperm

theorem standing_of_mark (own : Option String) (n b : Block) (history : List Schema)
    (hn : New own n) (h : b.mark = expected n history) : Standing own n history b := by
  obtain ⟨hshape, hheader⟩ := Prod.mk.inj h
  have hendpoint : b.header.endpoint = n.header.endpoint := (congrArg Header.endpoint hheader :)
  have hfield : b.header.field = n.header.field := (congrArg Header.field hheader :)
  have hname : b.header.typeName = n.header.typeName := (congrArg Header.typeName hheader :)
  have hstate : b.header.state = stateAfter n history := congrArg Header.state hheader
  have htype : b.header.typeDescription = describedBy n history :=
    congrArg Header.typeDescription hheader
  have hown : b.header.description = own :=
    (congrArg Header.description hheader).trans hn.header.2.1
  exact
    { endpoint := hendpoint
      field := hfield
      typeName := hname
      shape := hshape
      unchecked := by
        rintro rfl
        exact hstate
      removed := by
        rintro earlier schema rfl hr
        rw [hstate, stateAfter_concat, schema.stateOf_removed _ _ hr]
      bound := by
        rintro earlier schema type rfl hf hk
        rw [hstate, stateAfter_concat, schema.stateOf_found _ _ type hf, if_pos hk]
      mismatched := by
        rintro earlier schema type rfl hf hk
        rw [hstate, stateAfter_concat, schema.stateOf_found _ _ type hf, if_neg hk]
      typeDescription := htype
      tooltip := by
        rw [Header.tooltip, hown]
        cases own <;> rfl }

/-- A block that a check has found a schema for is bound or stale. -/
theorem state_ne_unbound (n : Block) (history : List Schema) :
    stateAfter n history ≠ .unbound ↔ history ≠ [] := by
  constructor
  · rintro h rfl
    exact h rfl
  · intro h hs
    obtain ⟨earlier, schema, rfl⟩ := List.eq_nil_or_concat' history |>.resolve_left h
    rw [stateAfter_concat, Schema.stateOf] at hs
    cases ht : schema.typeOf n.isObject n.header with
    | error condition =>
      rw [ht] at hs
      cases hs
    | ok type =>
      rw [ht] at hs
      cases hs

theorem run_append (earlier later : List Event) (s : State) :
    run (earlier ++ later) s =
      ((run earlier s).1 ++ (run later (run earlier s).2).1,
        (run later (run earlier s).2).2) := by
  induction earlier generalizing s with
  | nil => rfl
  | cons event events ih => rw [List.cons_append, run, run, ih, List.append_assoc]

/-- The block that is left of `n`, wherever it stands. -/
theorem mark_of_tracked (n : Block) (earlier : List Schema) (s : State) (b : Block)
    (h : Tracked n earlier (forestMarks s.forest)) (hb : b ∈ s.blocks) (hid : b.id = n.id) :
    b.mark = expected n earlier := by
  apply h.asked b.mark _ hid
  rw [Block.forestMarks_eq]
  exact List.mem_map_of_mem hb

/-- A run from a state in which `n` has just been made and has not been placed anywhere. Whatever
happens in it, there is at most one block of `n`'s identity at the end, and it stands as the
history of its checks says; and once it is no longer unbound it never becomes unbound again. -/
theorem standing_run (own : Option String) (n : Block) (s : State) (others : List Block)
    (events : List Event) (hn : New own n) (hs : s.hand = n :: others)
    (ho : ∀ tree ∈ s.workspace.roots ++ others, ∀ b ∈ tree.preorder, b.id ≠ n.id)
    (ha : Strangers n events) :
    ((run events s).2.blocks.filter fun b => b.id = n.id).length ≤ 1 ∧
    (∀ b ∈ (run events s).2.blocks, b.id = n.id →
      Standing own n (history n.id (run events s).1) b) ∧
    (∀ earlier later, events = earlier ++ later →
      ∀ a ∈ (run earlier s).2.blocks, a.id = n.id → a.header.state ≠ .unbound →
        ∀ b ∈ (run events s).2.blocks, b.id = n.id → b.header.state ≠ .unbound) := by
  have hstart := tracked_new own n s others hn hs ho
  have hend := tracked_run n events [] s hstart ha
  rw [List.nil_append] at hend
  refine ⟨?_, ?_, ?_⟩
  · have halone := hend.alone
    rw [Block.forestMarks_eq, List.filter_map, List.length_map] at halone
    exact halone
  · intro b hb hid
    have hmark := mark_of_tracked n _ _ b hend hb hid
    exact standing_of_mark own n b _ hn hmark
  · -- what was found by then is part of what has been found at the end
    rintro earlier later rfl a ham hai hau b hb hid
    have hmid := tracked_run n earlier [] s hstart fun tree ht =>
      ha tree (List.mem_append_left later ht)
    have hthen : a.header.state = stateAfter n (history n.id (run earlier s).1) :=
      congrArg (fun mark : Mark => mark.2.state) (mark_of_tracked n _ _ a hmid ham hai)
    have hnow : b.header.state = stateAfter n (history n.id (run (earlier ++ later) s).1) :=
      congrArg (fun mark : Mark => mark.2.state) (mark_of_tracked n _ _ b hend hb hid)
    rw [hthen, state_ne_unbound] at hau
    rw [hnow, state_ne_unbound, run_append, history_append]
    exact List.append_ne_nil_of_left_ne_nil hau _

def schemaWith (type : TypeDef) : Schema :=
  { queryType := "Query", mutationType := none
    types := { entries := [(type.name, type)], distinct := by simp } }

def wholeNumber : TypeDef :=
  { name := "Int", kind := .scalar, fields := [], description := some "A whole number" }

def interval : TypeDef :=
  { name := "Int", kind := .object, fields := [], description := some "An interval" }

def heightBlock : Block :=
  (((Block.newScalar "https://poke.example" "height" "Int").run 1).1).mapHeader fun header =>
    header.addParameter "unit" "Unit"

def teamBlock : Block := ((Block.newObject "https://poke.example" "team" "Team" 1).run 2).1

def desk : State := { cache := .empty, workspace := .empty, hand := [heightBlock, teamBlock] }

def deskEvents : List Event :=
  [.checked (.hand 0 []),
    .rooted 1,
    .placed 0 (.root 0 []) (.fill 0),
    .inserted "https://poke.example" (schemaWith wholeNumber),
    .synced "https://poke.example",
    .edited (.root 0 [0]) (.bindNamed "unit" (some (.enum "FOOT"))),
    .edited (.named { number := 2 }) (.addSlot 0),
    .inserted "https://poke.example" (schemaWith interval),
    .checked (.root 0 [1]),
    .removed "https://poke.example",
    .synced "https://poke.example",
    .edited (.root 0 []) (.removeSlot 1)]

def heightAfter : Block :=
  heightBlock.mapHeader fun header =>
    { header with
      parameters := [{ name := "unit", typeName := "Unit", value := some (.enum "FOOT") }]
      state := .stale (.kindMismatch "Int" false .object)
      typeDescription := some "A whole number" }

theorem standing_run_heightBlock :
    New none heightBlock ∧
      (∀ tree ∈ desk.workspace.roots ++ [teamBlock],
        ∀ b ∈ tree.preorder, b.id ≠ heightBlock.id) ∧
      Strangers heightBlock deskEvents ∧
      heightAfter ∈ (run deskEvents desk).2.blocks ∧
      history heightBlock.id (run deskEvents desk).1 =
        [schemaWith wholeNumber, schemaWith interval] ∧
      Standing none heightBlock [schemaWith wholeNumber, schemaWith interval] heightAfter ∧
      heightAfter.header.tooltip = some "A whole number" := by
  have hn : New none heightBlock := .parameter none _ "unit" "Unit" (.scalar _ _ _ 1)
  have ho : ∀ tree ∈ desk.workspace.roots ++ [teamBlock],
      ∀ b ∈ tree.preorder, b.id ≠ heightBlock.id := by
    decide
  have ha : Strangers heightBlock deskEvents := by
    intro tree ht
    simp [deskEvents] at ht
  have hblocks : (run deskEvents desk).2.blocks =
      [teamBlock.mapHeader fun header =>
        { header with state := .stale (.typeRemoved "https://poke.example" "Team") },
        heightAfter] := by
    rfl
  have hb : heightAfter ∈ (run deskEvents desk).2.blocks := by
    rw [hblocks]
    exact List.mem_cons_of_mem _ (List.mem_singleton_self _)
  have hh : history heightBlock.id (run deskEvents desk).1 =
      [schemaWith wholeNumber, schemaWith interval] := by rfl
  have h := (standing_run none heightBlock desk [teamBlock] deskEvents hn rfl ho ha).2.1
    heightAfter hb rfl
  rw [hh] at h
  exact ⟨hn, ho, ha, hb, hh, h, rfl⟩

end Lifetime

end QueryBlocks
