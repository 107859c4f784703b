import QueryBlocks.Proofs.Block.Places
import QueryBlocks.Proofs.Schema.Loading
import QueryBlocks.Proofs.Workspace.Synchronisation

/-!
# Overlapping loads

Any number of loads may be under way at once. They finish in any order and with any answers,
and their outcomes are applied in any order, between edits of the workspace. The cache has
the schema of the load that finished last, and every pass holds the blocks against that one,
whichever schema the applied outcome carries.
-/

set_option autoImplicit false

namespace QueryBlocks.Overlap

structure State where
  cache : SchemaCache
  workspace : Workspace
  inFlight : List String
  received : List (String × FetchOutcome)

inductive Event where
  | started (endpoint : String)
  | finished (endpoint : String) (answer : Answer)
  | applied (endpoint : String) (outcome : FetchOutcome)
  | edited (workspace : Workspace)

inductive Step : State → Event → State → Prop where
  | start (s : State) (endpoint : String) :
    Step s (.started endpoint) { s with inFlight := endpoint :: s.inFlight }
  | finish (s : State) (endpoint : String) (answer : Answer) (before after : List String)
      (h : s.inFlight = before ++ endpoint :: after) :
    Step s (.finished endpoint answer)
      { s with
        cache := (s.cache.load endpoint answer).2
        inFlight := before ++ after
        received := s.received ++ [(endpoint, (s.cache.load endpoint answer).1)] }
  | apply (s : State) (endpoint : String) (outcome : FetchOutcome)
      (before after : List (String × FetchOutcome))
      (h : s.received = before ++ (endpoint, outcome) :: after) :
    Step s (.applied endpoint outcome)
      { s with
        workspace := (s.cache.apply endpoint outcome s.workspace).2
        received := before ++ after }
  | edit (s : State) (workspace : Workspace) : Step s (.edited workspace) { s with workspace }

def idle (cache : SchemaCache) (workspace : Workspace) : State :=
  { cache, workspace, inFlight := [], received := [] }

inductive Run (start : State) : List Event → State → Prop where
  | nil : Run start [] start
  | step {events : List Event} {s : State} (earlier : Run start events s) (event : Event)
      (s' : State) (h : Step s event s') : Run start (events ++ [event]) s'

def loaded? (endpoint : String) (answer : Answer) : Option Schema :=
  match FetchOutcome.ofAnswer endpoint answer with
  | .loaded schema => some schema
  | _ => none

def loadedBy (endpoint : String) : Event → Option Schema
  | .finished other answer => if other = endpoint then loaded? other answer else none
  | _ => none

def latestLoaded (endpoint : String) (events : List Event) : Option Schema :=
  events.reverse.findSome? (loadedBy endpoint)

theorem latestLoaded_append (endpoint : String) (events : List Event) (event : Event) :
    latestLoaded endpoint (events ++ [event]) =
      (loadedBy endpoint event).or (latestLoaded endpoint events) := by
  rw [latestLoaded, List.reverse_append, List.reverse_singleton, List.singleton_append,
    List.findSome?_cons]
  cases loadedBy endpoint event <;> rfl

theorem cache_load (cache : SchemaCache) (endpoint : String) (answer : Answer) :
    (cache.load endpoint answer).2 =
      match loaded? endpoint answer with
      | some schema => cache.insert endpoint schema
      | none => cache := by
  unfold SchemaCache.load loaded?
  cases FetchOutcome.ofAnswer endpoint answer <;> rfl

theorem get?_load (cache : SchemaCache) (endpoint other : String) (answer : Answer) :
    (cache.load endpoint answer).2.get? other =
      (loadedBy other (.finished endpoint answer)).or (cache.get? other) := by
  rw [cache_load, loadedBy]
  cases loaded? endpoint answer with
  | none => simp
  | some schema =>
    rw [SchemaCache.get?_insert]
    by_cases he : endpoint = other
    · simp [he]
    · rw [if_neg (fun h => he h.symm), if_neg he]
      rfl

/-- One event changes the entries of the cache by what it loads, and by nothing else. -/
theorem step_cache (s s' : State) (event : Event) (h : Step s event s') (endpoint : String) :
    s'.cache.get? endpoint = (loadedBy endpoint event).or (s.cache.get? endpoint) := by
  cases h with
  | start other => rfl
  | finish other answer before after h => exact get?_load s.cache other endpoint answer
  | apply other outcome before after h => rfl
  | edit workspace => rfl

theorem run_cache (start s : State) (events : List Event) (h : Run start events s)
    (endpoint : String) :
    s.cache.get? endpoint = (latestLoaded endpoint events).or (start.cache.get? endpoint) := by
  induction h with
  | nil => rfl
  | step earlier event s' hs ih =>
    rw [step_cache _ _ event hs endpoint, ih, latestLoaded_append, Option.or_assoc]

def Covered (events : List Event) (s : State) : Prop :=
  ∀ endpoint schema, (endpoint, FetchOutcome.loaded schema) ∈ s.received →
    (latestLoaded endpoint events).isSome = true

theorem covered_later (events : List Event) (event : Event) (s s' : State) (h : Covered events s)
    (hr : s'.received ⊆ s.received) : Covered (events ++ [event]) s' := by
  intro endpoint schema hm
  rw [latestLoaded_append, Option.isSome_or, h endpoint schema (hr hm), Bool.or_true]

theorem step_covered (events : List Event) (s s' : State) (event : Event) (h : Step s event s')
    (hc : Covered events s) : Covered (events ++ [event]) s' := by
  cases h with
  | start endpoint => exact covered_later events _ s _ hc (fun _ h => h)
  | finish endpoint answer before after h =>
    intro other schema hm
    rw [latestLoaded_append, Option.isSome_or]
    rcases List.mem_append.mp hm with hm | hm
    · rw [hc other schema hm, Bool.or_true]
    · have he := List.mem_singleton.mp hm
      rw [SchemaCache.outcome_load, Prod.mk.injEq] at he
      rw [loadedBy, if_pos he.1.symm, loaded?, ← he.2]
      rfl
  | apply endpoint outcome before after h =>
    apply covered_later events _ s _ hc
    intro entry hm
    rw [h]
    rcases List.mem_append.mp hm with hm | hm
    · exact List.mem_append_left _ hm
    · exact List.mem_append_right _ (List.mem_cons_of_mem _ hm)
  | edit workspace => exact covered_later events _ s _ hc (fun _ h => h)

theorem run_covered (cache : SchemaCache) (workspace : Workspace) (events : List Event) (s : State)
    (h : Run (idle cache workspace) events s) : Covered events s := by
  induction h with
  | nil =>
    intro endpoint schema hm
    cases hm
  | step earlier event s' hs ih => exact step_covered _ _ _ event hs ih

theorem step_applied (s s' : State) (endpoint : String) (outcome : FetchOutcome)
    (h : Step s (.applied endpoint outcome) s') :
    (endpoint, outcome) ∈ s.received ∧ s'.cache = s.cache ∧
      s'.workspace = (s.cache.apply endpoint outcome s.workspace).2 := by
  cases h with
  | apply _ _ before after h =>
    rw [h]
    exact ⟨by simp, rfl, rfl⟩

/-- Whatever the order in which loads finish and outcomes are applied: the entry of an
endpoint is the schema of its latest successful load, if there was one; right after a loaded
schema has been applied, every block of its endpoint is in the state that the cached schema
asks for, which is that of the latest load and not that of the outcome; and a failure that is
applied leaves the whole workspace as it was. -/
theorem overlapping_loads (cache : SchemaCache) (workspace : Workspace) (events : List Event)
    (s : State) (h : Run (idle cache workspace) events s) (endpoint : String) :
    s.cache.get? endpoint = (latestLoaded endpoint events).or (cache.get? endpoint) ∧
    (∀ schema s', Step s (.applied endpoint (.loaded schema)) s' →
      ∃ latest, latestLoaded endpoint events = some latest ∧
        s'.cache.get? endpoint = some latest ∧
        ∀ root path block, s'.workspace.blockAt? root path = some block →
          block.endpoint = endpoint → latest.Dictates block) ∧
    (∀ outcome s', (∀ schema, outcome ≠ .loaded schema) →
      Step s (.applied endpoint outcome) s' →
        s'.cache = s.cache ∧ s'.workspace = s.workspace) := by
  have hcache := run_cache _ _ events h endpoint
  refine ⟨hcache, fun schema s' hs => ?_, fun outcome s' hf hs => ?_⟩
  · obtain ⟨hm, hkept, hwork⟩ := step_applied s s' endpoint _ hs
    obtain ⟨latest, hl⟩ := Option.isSome_iff_exists.mp
      (run_covered cache workspace events s h endpoint schema hm)
    have hentry : s.cache.get? endpoint = some latest := by
      rw [hcache, hl]
      rfl
    refine ⟨latest, hl, hkept ▸ hentry, fun root path block hb he => ?_⟩
    rw [hwork] at hb
    have hlive := (Workspace.mem_liveBlocks_iff _ endpoint block).mpr ⟨⟨root, path, hb⟩, he⟩
    exact latest.dictates_of_state block
      (s.cache.state_syncEndpoint endpoint s.workspace latest hentry block hlive)
  · obtain ⟨-, hkept, hwork⟩ := step_applied s s' endpoint outcome hs
    exact ⟨hkept, hwork.trans (s.cache.apply_failure endpoint outcome s.workspace hf)⟩

def answerWith (types : List Json) : Answer :=
  .ok (.object [("data", .object [("__schema", .object
    [("queryType", .object [("name", .string "Query")]), ("types", .array types)])])])

def withoutTypes : Schema := { queryType := "Query", mutationType := none, types := .empty }

def withNumbers : Answer :=
  answerWith [.object [("kind", .string "SCALAR"), ("name", .string "Int")]]

def heightDesk : Workspace :=
  Workspace.empty.addRoot
    (.scalar (Header.fresh { number := 1 } "https://poke.example" "height" "Int"))

def heightEvents : List Event :=
  [.started "https://poke.example", .started "https://poke.example",
    .finished "https://poke.example" (answerWith []),
    .finished "https://poke.example" withNumbers]

def heightCache : SchemaCache :=
  ((SchemaCache.empty.load "https://poke.example" (answerWith [])).2.load
    "https://poke.example" withNumbers).2

def heightState : State :=
  { cache := heightCache
    workspace := heightDesk
    inFlight := []
    received := [("https://poke.example", .loaded withoutTypes),
      ("https://poke.example", FetchOutcome.ofAnswer "https://poke.example" withNumbers)] }

def heightApplied : State :=
  { heightState with
    workspace := (heightCache.apply "https://poke.example" (.loaded withoutTypes) heightDesk).2
    received := [("https://poke.example",
      FetchOutcome.ofAnswer "https://poke.example" withNumbers)] }

theorem run_heightEvents : Run (idle .empty heightDesk) heightEvents heightState :=
  .step (.step (.step (.step .nil _ _ (.start _ _)) _ _ (.start _ _)) _ _
    (.finish _ _ _ [] ["https://poke.example"] rfl)) _ _ (.finish _ _ _ [] [] rfl)

theorem overlapping_loads_heightEvents :
    Run (idle .empty heightDesk) heightEvents heightState ∧
      Step heightState (.applied "https://poke.example" (.loaded withoutTypes)) heightApplied ∧
      (∃ latest, latestLoaded "https://poke.example" heightEvents = some latest ∧
        heightApplied.cache.get? "https://poke.example" = some latest ∧
        ∀ root path block, heightApplied.workspace.blockAt? root path = some block →
          block.endpoint = "https://poke.example" → latest.Dictates block) ∧
      heightApplied.workspace.blocks.map (fun block => block.header.state) = [.bound] := by
  have hs : Step heightState (.applied "https://poke.example" (.loaded withoutTypes))
      heightApplied := .apply heightState _ _ [] _ rfl
  have h := overlapping_loads .empty heightDesk heightEvents heightState run_heightEvents
    "https://poke.example"
  exact ⟨run_heightEvents, hs, h.2.1 withoutTypes heightApplied hs, rfl⟩

end QueryBlocks.Overlap
