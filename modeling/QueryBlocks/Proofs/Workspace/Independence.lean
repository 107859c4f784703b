import QueryBlocks.Proofs.Workspace.Pass
import QueryBlocks.Proofs.Workspace.Refresh

/-!
# Refreshes of different endpoints

A refresh reads and changes nothing but what belongs to its endpoint: the entry in the cache, the
blocks bound to it, wherever they stand, and what is said of them. Refreshes of different
endpoints can so be made in any order; only the events of one endpoint stand differently to those
of another.
-/

set_option autoImplicit false

namespace QueryBlocks

namespace Workspace

def Owned (workspace : Workspace) : Prop :=
  ∀ a ∈ workspace.blocks, ∀ b ∈ workspace.blocks, a.id = b.id → a.endpoint = b.endpoint

def idsOf (workspace : Workspace) (endpoint : String) : List BlockId :=
  (workspace.liveBlocks endpoint).map Block.id

def logOf (workspace : Workspace) (endpoint : String) : List SurfaceEvent :=
  workspace.events.filter fun event =>
    decide (event ∈ (workspace.idsOf endpoint).map SurfaceEvent.revalidated)

/-- Two workspaces with the same forest and the same results, and with logs that tell the same of
each endpoint. -/
structure Agrees (a b : Workspace) : Prop where
  forest : a.roots = b.roots
  results : ∀ id, a.lastResult? id = b.lastResult? id
  /-- The revalidations of the blocks of one endpoint come in the same order. -/
  log : ∀ endpoint, a.logOf endpoint = b.logOf endpoint
  /-- No event is missing or told more often. -/
  events : a.events.Perm b.events

theorem Agrees.refl (workspace : Workspace) : workspace.Agrees workspace :=
  ⟨rfl, fun _ => rfl, fun _ => rfl, .refl _⟩

theorem Agrees.trans {a b c : Workspace} (hab : a.Agrees b) (hbc : b.Agrees c) : a.Agrees c :=
  ⟨hab.forest.trans hbc.forest, fun id => (hab.results id).trans (hbc.results id),
    fun endpoint => (hab.log endpoint).trans (hbc.log endpoint), hab.events.trans hbc.events⟩

theorem Agrees.liveBlocks {a b : Workspace} (h : a.Agrees b) (endpoint : String) :
    a.liveBlocks endpoint = b.liveBlocks endpoint := by
  rw [Workspace.liveBlocks, Workspace.blocks, h.forest]
  rfl

theorem Agrees.owned {a b : Workspace} (h : a.Agrees b) (owned : a.Owned) : b.Owned := by
  rw [Owned, Workspace.blocks, h.forest] at owned
  exact owned

theorem Owned.apart {workspace : Workspace} (h : workspace.Owned) (endpoint other : String)
    (hne : endpoint ≠ other) (id : BlockId) (hid : id ∈ workspace.idsOf endpoint) :
    id ∉ workspace.idsOf other := by
  intro ho
  obtain ⟨a, ha, rfl⟩ := List.mem_map.mp hid
  obtain ⟨b, hb, he⟩ := List.mem_map.mp ho
  obtain ⟨hma, hea⟩ := List.mem_filter.mp ha
  obtain ⟨hmb, heb⟩ := List.mem_filter.mp hb
  exact hne ((beq_iff_eq.mp hea).symm.trans
    ((h a hma b hmb he.symm).trans (beq_iff_eq.mp heb)))

end Workspace

open Workspace (Agrees Owned)

namespace SchemaCache

section

variable (cache : SchemaCache) (endpoint : String) (workspace : Workspace)

theorem passHeader_elsewhere (isObject : Bool) (header : Header) (h : header.endpoint ≠ endpoint) :
    cache.passHeader endpoint isObject header = header := if_neg h

theorem endpoint_passHeader (isObject : Bool) (header : Header) :
    (cache.passHeader endpoint isObject header).endpoint = header.endpoint := by
  obtain ⟨state, typeDescription, h⟩ := cache.passHeader_frame endpoint isObject header
  rw [h]

theorem id_pass (block : Block) :
    (block.mapHeaders (cache.passHeader endpoint)).id = block.id := by
  obtain ⟨state, typeDescription, h⟩ :=
    cache.passHeader_frame endpoint block.isObject block.header
  rw [Block.id, Block.header_mapHeaders, h]
  rfl

theorem endpoint_pass (block : Block) :
    (block.mapHeaders (cache.passHeader endpoint)).endpoint = block.endpoint := by
  rw [Block.endpoint, Block.header_mapHeaders, endpoint_passHeader]
  rfl

theorem idsOf_pass (other : String) :
    (cache.syncEndpoint endpoint workspace).2.idsOf other = workspace.idsOf other := by
  rw [Workspace.idsOf, liveBlocks_pass, List.map_map]
  exact List.map_congr_left fun block _ => cache.id_pass endpoint block

theorem owned_pass (h : workspace.Owned) : (cache.syncEndpoint endpoint workspace).2.Owned := by
  have hblocks : (cache.syncEndpoint endpoint workspace).2.blocks =
      workspace.blocks.map (Block.mapHeaders (cache.passHeader endpoint)) := by
    rw [Workspace.blocks, roots_pass, Block.preorder_mapHeaders_forest]
    rfl
  intro a ha b hb he
  rw [hblocks] at ha hb
  obtain ⟨before, hbefore, rfl⟩ := List.mem_map.mp ha
  obtain ⟨other, hother, rfl⟩ := List.mem_map.mp hb
  rw [id_pass, id_pass] at he
  rw [endpoint_pass, endpoint_pass]
  exact h before hbefore other hother he

theorem events_pass : (cache.syncEndpoint endpoint workspace).2.events =
    workspace.events ++ (workspace.idsOf endpoint).map SurfaceEvent.revalidated := by
  rw [log_pass, Workspace.idsOf, List.map_map]
  rfl

/-- A pass tells nothing of a block that is not bound to its endpoint. -/
theorem results_elsewhere (id : BlockId) (h : id ∉ workspace.idsOf endpoint) :
    (cache.resultsFor endpoint workspace.roots).filter (fun entry => entry.1 = id) = [] := by
  rw [List.filter_eq_nil_iff, resultsFor_eq]
  intro entry he hid
  obtain ⟨block, hb, rfl⟩ := List.mem_map.mp he
  exact h (List.mem_map.mpr ⟨block, hb, of_decide_eq_true hid⟩)

/-- What a pass adds to the log is about its own endpoint. -/
theorem logOf_pass (owned : workspace.Owned) (other : String) :
    (cache.syncEndpoint endpoint workspace).2.logOf other =
      workspace.logOf other ++
        if other = endpoint then (workspace.idsOf endpoint).map SurfaceEvent.revalidated
        else [] := by
  rw [Workspace.logOf, idsOf_pass, events_pass, List.filter_append, Workspace.logOf]
  congr 1
  by_cases h : other = endpoint
  · subst h
    rw [if_pos rfl, List.filter_eq_self]
    exact fun event he => decide_eq_true he
  · rw [if_neg h, List.filter_eq_nil_iff]
    intro event he ho
    obtain ⟨id, hid, rfl⟩ := List.mem_map.mp he
    obtain ⟨id', hid', heq⟩ := List.mem_map.mp (of_decide_eq_true ho)
    cases heq
    exact owned.apart endpoint other (Ne.symm h) id hid hid'

/-- Of the cache a pass reads the entry of its endpoint only. -/
theorem syncEndpoint_congr (other : SchemaCache) (h : cache.get? endpoint = other.get? endpoint) :
    cache.syncEndpoint endpoint workspace = other.syncEndpoint endpoint workspace := by
  have hheader (isObject : Bool) (header : Header) (he : header.endpoint = endpoint) :
      cache.revalidateHeader isObject header = other.revalidateHeader isObject header := by
    rw [← he] at h
    simp only [revalidateHeader, h]
  have hresults : cache.resultsFor endpoint workspace.roots =
      other.resultsFor endpoint workspace.roots := by
    rw [resultsFor_eq, resultsFor_eq]
    apply List.map_congr_left
    intro block hb
    have he := endpoint_of_mem_liveBlocks endpoint workspace block hb
    rw [revalidate, revalidate, hheader block.isObject block.header he]
  have hforest : cache.revalidateForest endpoint workspace.roots =
      other.revalidateForest endpoint workspace.roots := by
    have hpass : cache.passHeader endpoint = other.passHeader endpoint := by
      funext isObject header
      unfold passHeader
      split
      · next he => rw [hheader isObject header he]
      · rfl
    rw [revalidateForest_eq, revalidateForest_eq, hpass]
  rw [syncEndpoint, syncEndpoint, hresults, hforest]

/-- Workspaces that agree still do so after a pass, and it reports the same of them. -/
theorem agrees_pass (other : Workspace) (owned : workspace.Owned) (h : workspace.Agrees other) :
    (cache.syncEndpoint endpoint workspace).1 = (cache.syncEndpoint endpoint other).1 ∧
      (cache.syncEndpoint endpoint workspace).2.Agrees (cache.syncEndpoint endpoint other).2 := by
  have hroots : cache.resultsFor endpoint workspace.roots =
      cache.resultsFor endpoint other.roots := by rw [h.forest]
  have hids : workspace.idsOf endpoint = other.idsOf endpoint := by
    rw [Workspace.idsOf, h.liveBlocks endpoint, Workspace.idsOf]
  refine ⟨congrArg (SyncReport.ofResults endpoint) hroots, ?_, ?_, ?_, ?_⟩
  · rw [roots_pass, roots_pass, h.forest]
  · intro id
    rw [lastResult?_pass, lastResult?_pass, hroots, h.results id]
  · intro another
    rw [logOf_pass cache endpoint workspace owned, logOf_pass cache endpoint other
      (h.owned owned), h.log another, hids]
  · rw [events_pass, events_pass, hids]
    exact h.events.append_right _

end

section

variable (first second : SchemaCache) (endpoint other : String) (workspace : Workspace)

/-- A pass finds the blocks of its endpoint as they were before a pass of another endpoint. -/
theorem resultsFor_pass (hne : endpoint ≠ other) :
    second.resultsFor other (first.syncEndpoint endpoint workspace).2.roots =
      second.resultsFor other workspace.roots := by
  rw [resultsFor_eq, resultsFor_eq, liveBlocks_pass, List.map_map]
  apply List.map_congr_left
  intro block hb
  have he := endpoint_of_mem_liveBlocks other workspace block hb
  have hh : (block.mapHeaders (first.passHeader endpoint)).header = block.header := by
    rw [Block.header_mapHeaders]
    exact first.passHeader_elsewhere endpoint _ _ fun h => hne (h.symm.trans he)
  rw [Function.comp_apply, id_pass, revalidate, revalidate, hh, Block.isObject_mapHeaders]

theorem passHeader_comm (hne : endpoint ≠ other) (isObject : Bool) (header : Header) :
    second.passHeader other isObject (first.passHeader endpoint isObject header) =
      first.passHeader endpoint isObject (second.passHeader other isObject header) := by
  by_cases h : header.endpoint = endpoint
  · have ho : header.endpoint ≠ other := fun he => hne (h.symm.trans he)
    rw [second.passHeader_elsewhere other isObject header ho,
      second.passHeader_elsewhere other isObject _ (by rw [endpoint_passHeader]; exact ho)]
  · rw [first.passHeader_elsewhere endpoint isObject header h,
      first.passHeader_elsewhere endpoint isObject _ (by rw [endpoint_passHeader]; exact h)]

theorem lastResult?_comm (owned : workspace.Owned) (hne : endpoint ≠ other) (id : BlockId) :
    (second.syncEndpoint other (first.syncEndpoint endpoint workspace).2).2.lastResult? id =
      (first.syncEndpoint endpoint (second.syncEndpoint other workspace).2).2.lastResult? id := by
  rw [lastResult?_pass, lastResult?_pass, lastResult?_pass, lastResult?_pass,
    resultsFor_pass first second endpoint other workspace hne,
    resultsFor_pass second first other endpoint workspace hne.symm]
  by_cases h : id ∈ workspace.idsOf endpoint
  · rw [second.results_elsewhere other workspace id (owned.apart endpoint other hne id h)]
    rfl
  · rw [first.results_elsewhere endpoint workspace id h]
    rfl

/-- Passes of different endpoints report the same in either order and leave workspaces that
agree. -/
theorem agrees_comm (owned : workspace.Owned) (hne : endpoint ≠ other) :
    (second.syncEndpoint other (first.syncEndpoint endpoint workspace).2).1 =
        (second.syncEndpoint other workspace).1 ∧
      (second.syncEndpoint other (first.syncEndpoint endpoint workspace).2).2.Agrees
        (first.syncEndpoint endpoint (second.syncEndpoint other workspace).2).2 := by
  refine ⟨congrArg (SyncReport.ofResults other)
    (resultsFor_pass first second endpoint other workspace hne), ?_, ?_, ?_, ?_⟩
  · rw [roots_pass, roots_pass, roots_pass, roots_pass, List.map_map, List.map_map]
    apply List.map_congr_left
    intro root _
    rw [Function.comp_apply, Function.comp_apply, Block.mapHeaders_mapHeaders,
      Block.mapHeaders_mapHeaders]
    exact congrArg (Block.mapHeaders · root) (funext fun isObject => funext fun header =>
      passHeader_comm first second endpoint other hne isObject header)
  · exact lastResult?_comm first second endpoint other workspace owned hne
  · intro another
    rw [logOf_pass _ _ _ (first.owned_pass endpoint workspace owned), logOf_pass _ _ _ owned,
      logOf_pass _ _ _ (second.owned_pass other workspace owned), logOf_pass _ _ _ owned,
      idsOf_pass, idsOf_pass, List.append_assoc, List.append_assoc]
    congr 1
    by_cases h : another = endpoint
    · have ho : another ≠ other := fun he => hne (h.symm.trans he)
      rw [if_neg ho, List.append_nil, List.nil_append]
    · rw [if_neg h, List.append_nil, List.nil_append]
  · rw [events_pass, events_pass, events_pass, events_pass, idsOf_pass, idsOf_pass,
      List.append_assoc, List.append_assoc]
    exact (List.perm_append_comm).append_left _

end

theorem get?_insert_self (cache : SchemaCache) (endpoint : String) (schema : Schema) :
    (cache.insert endpoint schema).get? endpoint = some schema :=
  (cache.get?_insert endpoint endpoint schema).trans (if_pos rfl)

theorem insert_comm (cache : SchemaCache) (endpoint other : String) (schema another : Schema)
    (hne : endpoint ≠ other) :
    (cache.insert endpoint schema).insert other another =
      (cache.insert other another).insert endpoint schema :=
  congrArg SchemaCache.mk (cache.schemas.insert_comm endpoint other schema another hne)

structure Refreshed where
  returned : List (String × Except CacheError SyncReport)
  cache : SchemaCache
  workspace : Workspace

def Refreshed.after (endpoint : String) (result : Except CacheError SyncReport)
    (later : Refreshed) : Refreshed :=
  { later with returned := (endpoint, result) :: later.returned }

def refreshAll (cache : SchemaCache) (workspace : Workspace) : List (String × Answer) → Refreshed
  | [] => { returned := [], cache, workspace }
  | (endpoint, answer) :: rest =>
    let (result, cache, workspace) := cache.refresh endpoint answer workspace
    (refreshAll cache workspace rest).after endpoint result

/-- Every refresh returns the same, and the cache, the forest, the results and what the log tells
of each endpoint are the same in the end. -/
structure SameOutcome (a b : Refreshed) : Prop where
  returned : a.returned.Perm b.returned
  cache : a.cache = b.cache
  workspace : a.workspace.Agrees b.workspace

namespace SameOutcome

theorem refl (outcome : Refreshed) : SameOutcome outcome outcome := ⟨.refl _, rfl, .refl _⟩

theorem trans {a b c : Refreshed} (hab : SameOutcome a b) (hbc : SameOutcome b c) :
    SameOutcome a c :=
  ⟨hab.returned.trans hbc.returned, hab.cache.trans hbc.cache, hab.workspace.trans hbc.workspace⟩

variable {a b : Refreshed} (h : SameOutcome a b) (endpoint other : String)
  (result another : Except CacheError SyncReport)

include h

theorem after : SameOutcome (a.after endpoint result) (b.after endpoint result) :=
  ⟨h.returned.cons _, h.cache, h.workspace⟩

theorem after_comm : SameOutcome ((a.after other another).after endpoint result)
    ((b.after endpoint result).after other another) :=
  ⟨(List.Perm.swap _ _ _).trans ((h.returned.cons _).cons _), h.cache, h.workspace⟩

end SameOutcome

section

variable (cache : SchemaCache) (workspace : Workspace) (endpoint other : String)
  (answer another : Answer) (rest : List (String × Answer))

theorem refreshAll_of_error (cause : CacheError)
    (h : (FetchOutcome.ofAnswer endpoint answer).toExcept = .error cause) :
    cache.refreshAll workspace ((endpoint, answer) :: rest) =
      (cache.refreshAll workspace rest).after endpoint (.error cause) := by
  rw [refreshAll, cache.refresh_of_error endpoint answer workspace cause h]

theorem refreshAll_of_schema (schema : Schema)
    (h : (FetchOutcome.ofAnswer endpoint answer).toExcept = .ok schema) :
    cache.refreshAll workspace ((endpoint, answer) :: rest) =
      ((cache.insert endpoint schema).refreshAll
        ((cache.insert endpoint schema).syncEndpoint endpoint workspace).2 rest).after endpoint
          (.ok ((cache.insert endpoint schema).syncEndpoint endpoint workspace).1) := by
  rw [refreshAll, cache.refresh_of_schema endpoint answer workspace schema h]

end

/-- Workspaces that agree cannot be told apart by any refreshes. -/
theorem refreshAll_agrees (calls : List (String × Answer)) (cache : SchemaCache)
    (workspace other : Workspace) (owned : workspace.Owned) (h : workspace.Agrees other) :
    SameOutcome (cache.refreshAll workspace calls) (cache.refreshAll other calls) := by
  induction calls generalizing cache workspace other with
  | nil => exact ⟨.refl _, rfl, h⟩
  | cons call rest ih =>
    obtain ⟨endpoint, answer⟩ := call
    cases ho : (FetchOutcome.ofAnswer endpoint answer).toExcept with
    | error cause =>
      rw [cache.refreshAll_of_error workspace endpoint answer rest cause ho,
        cache.refreshAll_of_error other endpoint answer rest cause ho]
      exact (ih cache workspace other owned h).after endpoint _
    | ok schema =>
      obtain ⟨hreport, hagrees⟩ :=
        (cache.insert endpoint schema).agrees_pass endpoint workspace other owned h
      rw [cache.refreshAll_of_schema workspace endpoint answer rest schema ho,
        cache.refreshAll_of_schema other endpoint answer rest schema ho, hreport]
      exact (ih _ _ _ (owned_pass _ endpoint workspace owned) hagrees).after endpoint _

section

variable (cache : SchemaCache) (workspace : Workspace) (endpoint other : String)
  (answer another : Answer) (rest : List (String × Answer)) (owned : workspace.Owned)
  (hne : endpoint ≠ other)

include owned hne

/-- Each of two successful refreshes is the pass that it would be without the other. -/
theorem refreshAll_swap_of_schemas (schema found : Schema)
    (ha : (FetchOutcome.ofAnswer endpoint answer).toExcept = .ok schema)
    (hb : (FetchOutcome.ofAnswer other another).toExcept = .ok found) :
    SameOutcome (cache.refreshAll workspace ((endpoint, answer) :: (other, another) :: rest))
      (cache.refreshAll workspace ((other, another) :: (endpoint, answer) :: rest)) := by
  let first := cache.insert endpoint schema
  let second := cache.insert other found
  let both := first.insert other found
  have hfirst (w : Workspace) : both.syncEndpoint endpoint w = first.syncEndpoint endpoint w :=
    both.syncEndpoint_congr endpoint w first
      ((first.get?_insert other endpoint found).trans (if_neg hne))
  have hsecond (w : Workspace) : both.syncEndpoint other w = second.syncEndpoint other w :=
    both.syncEndpoint_congr other w second
      ((first.get?_insert_self other found).trans (cache.get?_insert_self other found).symm)
  have hab := agrees_comm first second endpoint other workspace owned hne
  have hba := agrees_comm second first other endpoint workspace owned hne.symm
  have howned : (second.syncEndpoint other (first.syncEndpoint endpoint workspace).2).2.Owned :=
    second.owned_pass other _ (first.owned_pass endpoint workspace owned)
  rw [refreshAll_of_schema _ _ _ _ _ schema ha, refreshAll_of_schema _ _ _ _ _ found hb,
    refreshAll_of_schema _ _ _ _ _ found hb, refreshAll_of_schema _ _ _ _ _ schema ha,
    ← cache.insert_comm endpoint other schema found hne]
  change SameOutcome
    (((both.refreshAll (both.syncEndpoint other (first.syncEndpoint endpoint workspace).2).2
      rest).after other _).after endpoint _)
    (((both.refreshAll (both.syncEndpoint endpoint (second.syncEndpoint other workspace).2).2
      rest).after endpoint _).after other _)
  rw [hsecond, hfirst, hab.1, hba.1]
  exact (refreshAll_agrees rest both _ _ howned hab.2).after_comm _ _ _ _

/-- Two refreshes of different endpoints can change places. -/
theorem refreshAll_swap :
    SameOutcome (cache.refreshAll workspace ((endpoint, answer) :: (other, another) :: rest))
      (cache.refreshAll workspace ((other, another) :: (endpoint, answer) :: rest)) := by
  cases ha : (FetchOutcome.ofAnswer endpoint answer).toExcept with
  | error cause =>
    rw [refreshAll_of_error _ _ _ _ _ cause ha]
    cases hb : (FetchOutcome.ofAnswer other another).toExcept with
    | error reason =>
      rw [refreshAll_of_error _ _ _ _ _ reason hb, refreshAll_of_error _ _ _ _ _ reason hb,
        refreshAll_of_error _ _ _ _ _ cause ha]
      exact (SameOutcome.refl _).after_comm _ _ _ _
    | ok found =>
      rw [refreshAll_of_schema _ _ _ _ _ found hb, refreshAll_of_schema _ _ _ _ _ found hb,
        refreshAll_of_error _ _ _ _ _ cause ha]
      exact (SameOutcome.refl _).after_comm _ _ _ _
  | ok schema =>
    cases hb : (FetchOutcome.ofAnswer other another).toExcept with
    | error reason =>
      rw [refreshAll_of_schema _ _ _ _ _ schema ha, refreshAll_of_error _ _ _ _ _ reason hb,
        refreshAll_of_error _ _ _ _ _ reason hb, refreshAll_of_schema _ _ _ _ _ schema ha]
      exact (SameOutcome.refl _).after_comm _ _ _ _
    | ok found =>
      exact refreshAll_swap_of_schemas cache workspace endpoint other answer another rest owned hne
        schema found ha hb

end

/-- Refreshes of pairwise distinct endpoints, successful or failing, have the same outcome in any
order. -/
theorem refreshAll_perm (cache : SchemaCache) (workspace : Workspace)
    (calls others : List (String × Answer)) (owned : workspace.Owned)
    (distinct : (calls.map Prod.fst).Nodup) (h : calls.Perm others) :
    SameOutcome (cache.refreshAll workspace calls) (cache.refreshAll workspace others) := by
  induction h generalizing cache workspace with
  | nil => exact .refl _
  | @cons call rest others _ ih =>
    obtain ⟨endpoint, answer⟩ := call
    have hrest := (List.nodup_cons.mp distinct).2
    cases ho : (FetchOutcome.ofAnswer endpoint answer).toExcept with
    | error cause =>
      rw [refreshAll_of_error _ _ _ _ _ cause ho, refreshAll_of_error _ _ _ _ _ cause ho]
      exact (ih cache workspace owned hrest).after endpoint _
    | ok schema =>
      rw [refreshAll_of_schema _ _ _ _ _ schema ho, refreshAll_of_schema _ _ _ _ _ schema ho]
      exact (ih _ _ (owned_pass _ endpoint workspace owned) hrest).after endpoint _
  | swap first second rest =>
    have hne : second.1 ≠ first.1 := by
      intro he
      exact (List.nodup_cons.mp distinct).1 (he ▸ List.mem_cons_self)
    exact refreshAll_swap cache workspace second.1 first.1 second.2 first.2 rest owned hne
  | trans hp hq ihp ihq =>
    exact (ihp cache workspace owned distinct).trans
      (ihq cache workspace owned ((hp.map Prod.fst).nodup distinct))

def nestedDesk : Workspace :=
  let berry := Block.scalar (Header.fresh { number := 2 } "https://berry.example" "size" "Int")
  let poke := Header.fresh { number := 1 } "https://poke.example" "height" "Team"
  (Workspace.empty.addRoot (.object poke [some berry, none])).addRoot berry

def schemaBody (types : List Json) : Json :=
  .object [("data", .object [("__schema", .object
    [("queryType", .object [("name", .string "Query")]), ("types", .array types)])])]

def deskCalls : List (String × Answer) :=
  [("https://poke.example", .ok (schemaBody [])),
    ("https://move.example", .error (.status "https://move.example" 503)),
    ("https://berry.example",
      .ok (schemaBody [.object [("kind", .string "SCALAR"), ("name", .string "Int")]]))]

/-- The last call made first leaves another log, and all else is the same. -/
theorem refreshAll_perm_nestedDesk :
    nestedDesk.Owned ∧ (deskCalls.map Prod.fst).Nodup ∧ deskCalls.Perm deskCalls.reverse ∧
      SameOutcome (empty.refreshAll nestedDesk deskCalls)
        (empty.refreshAll nestedDesk deskCalls.reverse) ∧
      (empty.refreshAll nestedDesk deskCalls).workspace.events =
        nestedDesk.events ++ [.revalidated { number := 1 }, .revalidated { number := 2 },
          .revalidated { number := 2 }] ∧
      (empty.refreshAll nestedDesk deskCalls.reverse).workspace.events =
        nestedDesk.events ++ [.revalidated { number := 2 }, .revalidated { number := 2 },
          .revalidated { number := 1 }] := by
  have howned : nestedDesk.Owned := by
    unfold Owned
    decide +kernel
  have hdistinct : (deskCalls.map Prod.fst).Nodup := by decide
  have hperm : deskCalls.Perm deskCalls.reverse := deskCalls.reverse_perm.symm
  exact ⟨howned, hdistinct, hperm,
    refreshAll_perm empty nestedDesk deskCalls deskCalls.reverse howned hdistinct hperm,
    by decide +kernel, by decide +kernel⟩

end SchemaCache

end QueryBlocks
