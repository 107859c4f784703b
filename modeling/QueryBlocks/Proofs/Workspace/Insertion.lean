import QueryBlocks.Proofs.Workspace.Growth

/-!
# Inserting a child, store by store

An editor works in place: it reserves the slot, makes and announces the child, fills the slot and
tells of the new structure, and nothing is taken back when a step fails. Every failure comes before
the first store, so a refused insertion leaves all as it was, and one that is not refused runs to
its end.
-/

set_option autoImplicit false

namespace QueryBlocks

/-- What the steps of an insertion read and write. -/
structure Bench where
  cache : SchemaCache
  parent : Block
  workspace : Workspace
  next : Nat

namespace Bench

open Growth (lastResult?_announce)

abbrev Step := ExceptT SlotError (StateM Bench)

def editParent {ρ : Type} (edit : Block → Except SlotError (ρ × Block)) : Step ρ := fun bench =>
  match edit bench.parent with
  | .ok (result, parent) => (.ok result, { bench with parent })
  | .error cause => (.error cause, bench)

def create (template : Template) : Step Block := fun bench =>
  let made := (bench.cache.createBlock template bench.workspace).run bench.next
  (.ok made.1.1, { bench with workspace := made.1.2, next := made.2 })

def announceStructure : Step Unit := fun bench =>
  (.ok (), { bench with
    workspace := bench.workspace.record (.structureChanged bench.parent.id) })

def insert (index : Nat) (template : Template) : Step BlockId := do
  editParent fun parent => parent.addSlot index
  let child ← create template
  let _ ← editParent fun parent => parent.fillSlot index child
  announceStructure
  return child.id

variable (index : Nat) (template : Template) (bench : Bench)

theorem run_editParent {ρ : Type} (edit : Block → Except SlotError (ρ × Block)) :
    (editParent edit).run bench =
      match edit bench.parent with
      | .ok (result, parent) => (.ok result, { bench with parent })
      | .error cause => (.error cause, bench) := rfl

theorem run_editParent_ok {ρ : Type} (edit : Block → Except SlotError (ρ × Block)) (result : ρ)
    (parent : Block) (h : edit bench.parent = .ok (result, parent)) :
    (editParent edit).run bench = (.ok result, { bench with parent }) := by
  rw [run_editParent, h]

theorem run_editParent_error {ρ : Type} (edit : Block → Except SlotError (ρ × Block))
    (cause : SlotError) (h : edit bench.parent = .error cause) :
    (editParent edit).run bench = (.error cause, bench) := by
  rw [run_editParent, h]

theorem run_create :
    (create template).run bench =
      (.ok (bench.cache.created template bench.next),
        { bench with
          workspace := bench.cache.announce template bench.next bench.workspace
          next := bench.next + 1 }) := by
  have hrun : (create template).run bench =
      (.ok ((bench.cache.createBlock template bench.workspace).run bench.next).1.1,
        { bench with
          workspace := ((bench.cache.createBlock template bench.workspace).run bench.next).1.2
          next := ((bench.cache.createBlock template bench.workspace).run bench.next).2 }) := rfl
  rw [hrun, bench.cache.run_createBlock template bench.next bench.workspace]

theorem run_announceStructure :
    announceStructure.run bench =
      (.ok (), { bench with
        workspace := bench.workspace.record (.structureChanged bench.parent.id) }) := rfl

inductive Refused (index : Nat) : Block → SlotError → Prop where
  | scalar (header : Header) : Refused index (.scalar header) (.scalarBlock header.field)
  | outside (header : Header) (slots : List (Option Block)) (h : slots.length < index) :
    Refused index (.object header slots) (.outOfRange index slots.length)

def filled : Bench :=
  let child := bench.cache.created template bench.next
  let announced := bench.cache.announce template bench.next bench.workspace
  { cache := bench.cache
    parent := .object bench.parent.header (bench.parent.slots.insertIdx index (some child))
    workspace := announced.record (.structureChanged bench.parent.id)
    next := bench.next + 1 }

theorem addSlot_error_iff (parent : Block) (cause : SlotError) :
    parent.addSlot index = .error cause ↔ Refused index parent cause := by
  constructor
  · intro h
    cases parent with
    | scalar header =>
      cases h
      exact .scalar header
    | object header slots =>
      rw [Block.addSlot_object] at h
      by_cases hi : index ≤ slots.length
      · simp [hi] at h
      · simp only [if_neg hi, Except.error.injEq] at h
        subst h
        exact .outside header slots (by omega)
  · intro h
    cases h with
    | scalar header => rfl
    | outside header slots h =>
      have hi : ¬ index ≤ slots.length := by omega
      rw [Block.addSlot_object, if_neg hi]

theorem run_insert_refused (cause : SlotError) (h : Refused index bench.parent cause) :
    (insert index template).run bench = (.error cause, bench) := by
  have ha := (addSlot_error_iff index bench.parent cause).mpr h
  rw [insert, run_bind,
    run_editParent_error bench (fun parent => parent.addSlot index) cause ha]

theorem run_insert_object (cache : SchemaCache) (header : Header) (slots : List (Option Block))
    (workspace : Workspace) (next : Nat) (h : index ≤ slots.length) :
    (insert index template).run { cache, parent := .object header slots, workspace, next } =
      (.ok { number := next },
        filled index template { cache, parent := .object header slots, workspace, next }) := by
  have hadd : (Block.object header slots).addSlot index =
      .ok ((), .object header (slots.insertIdx index none)) := by
    rw [Block.addSlot_object, if_pos h]
  have hfill := Block.fillSlot_insertIdx header slots index (cache.created template next) h
  rw [insert, run_bind,
    run_editParent_ok _ (fun parent => parent.addSlot index) () _ hadd]
  simp only [run_bind, run_create, run_announceStructure]
  rw [run_editParent_ok _ (fun parent => parent.fillSlot index _) none _ hfill]
  simp only
  rw [← cache.id_created template next]
  rfl

/-- The bench after the run of a computation that hands its results back. -/
def store (bench : Bench) :
    Except SlotError (BlockId × Block × Workspace) × Nat → Except SlotError BlockId × Bench
  | (.ok (id, parent, workspace), next) => (.ok id, { bench with parent, workspace, next })
  | (.error cause, next) => (.error cause, { bench with next })

/-- What has become of a bench once a child is in its parent: the child is the block of the
template as the check of the cache leaves it, and nobody was told of anything else. -/
structure Inserted (index : Nat) (template : Template) (before after : Bench)
    (result : Revalidation) (child : Block) : Prop where
  cache : after.cache = before.cache
  next : after.next = before.next + 1
  header : after.parent.header = before.parent.header
  isObject : after.parent.isObject = before.parent.isObject
  slots : after.parent.slots =
    before.parent.slots.take index ++ some child :: before.parent.slots.drop index
  checked : (result, child) =
    before.cache.revalidate ((Block.ofTemplate template).run before.next).1
  childId : child.id = { number := before.next }
  endpoint : child.endpoint = template.endpoint
  field : child.header.field = template.field
  typeName : child.header.typeName = template.typeName
  childIsObject : child.isObject = template.isObject
  childSlots : child.slots = if template.isObject then [none] else []
  parameters : child.header.parameters = template.parameters.map fun p =>
    { name := p.name, typeName := p.typeName, value := none }
  description : child.header.description = template.description
  roots : after.workspace.roots = before.workspace.roots
  lastResult : after.workspace.lastResult? child.id = some result
  otherResults : ∀ other, other ≠ child.id →
    after.workspace.lastResult? other = before.workspace.lastResult? other
  events : after.workspace.events = before.workspace.events ++
    [.created child.id, .revalidated child.id, .structureChanged before.parent.id]

theorem run_insert_eq_store :
    (insert index template).run bench = bench.store
      ((bench.cache.insertChild index template bench.parent bench.workspace).run bench.next) := by
  obtain ⟨cache, parent, workspace, next⟩ := bench
  rw [SchemaCache.run_insertChild]
  cases parent with
  | scalar header =>
    rw [run_insert_refused index template _ _ (.scalar header)]
    rfl
  | object header slots =>
    by_cases h : index ≤ slots.length
    · rw [run_insert_object index template cache header slots workspace next h]
      simp only [if_pos h]
      rfl
    · rw [run_insert_refused index template _ _ (.outside header slots (by omega))]
      simp only [if_neg h]
      rfl

theorem lastResult?_record (workspace : Workspace) (event : SurfaceEvent) (id : BlockId) :
    (workspace.record event).lastResult? id = workspace.lastResult? id := rfl

theorem insertIdx_eq_take_drop {α : Type} (entries : List α) (entry : α)
    (h : index ≤ entries.length) :
    entries.insertIdx index entry = entries.take index ++ entry :: entries.drop index := by
  have hs := insertIdx_around (entries.take index) (entries.drop index) entry
  rwa [List.take_append_drop, List.length_take_of_le h] at hs

/-- Only the state and the description of its type tell the new block from the template's. -/
theorem header_created_frame (cache : SchemaCache) (next : Nat) :
    ∃ state typeDescription, (cache.created template next).header =
      { template.header next with state, typeDescription } := by
  obtain ⟨state, typeDescription, h⟩ :=
    cache.revalidateHeader_frame template.isObject (template.header next)
  exact ⟨state, typeDescription, (cache.header_created template next).trans h⟩

theorem slots_created (cache : SchemaCache) (next : Nat) :
    (cache.created template next).slots = if template.isObject then [none] else [] := by
  rw [SchemaCache.created, SchemaCache.revalidate, Template.block]
  split <;> rfl

theorem inserted_filled (header : Header) (slots : List (Option Block))
    (hp : bench.parent = .object header slots) (h : index ≤ slots.length) :
    Inserted index template bench (filled index template bench)
      (bench.cache.revalidate (template.block bench.next)).1
      (bench.cache.created template bench.next) := by
  obtain ⟨state, typeDescription, hc⟩ := header_created_frame template bench.cache bench.next
  have hid := bench.cache.id_created template bench.next
  constructor
  case cache => rfl
  case next => rfl
  case header => rfl
  case isObject => rw [hp]; rfl
  case slots => simp [filled, hp, Block.slots, insertIdx_eq_take_drop index slots _ h]
  case checked => rw [template.run_ofTemplate, SchemaCache.created]
  case childId => exact hid
  case endpoint => rw [Block.endpoint, hc]; rfl
  case field => rw [hc]; rfl
  case typeName => rw [hc]; rfl
  case childIsObject => exact bench.cache.isObject_created template bench.next
  case childSlots => exact slots_created template bench.cache bench.next
  case parameters => rw [hc]; rfl
  case description => rw [hc]; rfl
  case roots => rfl
  case lastResult => rw [hid, filled, lastResult?_record, lastResult?_announce, if_pos rfl]
  case otherResults =>
    intro other ho
    rw [hid] at ho
    rw [filled, lastResult?_record, lastResult?_announce, if_neg ho]
  case events =>
    rw [hid]
    simp [filled, SchemaCache.announce, Workspace.deliver, Workspace.record]

theorem refused_or_fits (parent : Block) :
    (∃ cause, Refused index parent cause) ∨
      ∃ header slots, parent = .object header slots ∧ index ≤ slots.length := by
  cases parent with
  | scalar header => exact .inl ⟨_, .scalar header⟩
  | object header slots =>
    by_cases h : index ≤ slots.length
    · exact .inr ⟨header, slots, rfl, h⟩
    · exact .inl ⟨_, .outside header slots (by omega)⟩

theorem error_run_insert_iff (cause : SlotError) :
    ((insert index template).run bench).1 = .error cause ↔ Refused index bench.parent cause := by
  obtain ⟨cache, parent, workspace, next⟩ := bench
  constructor
  · intro hrun
    rcases refused_or_fits index parent with ⟨found, hr⟩ | ⟨header, slots, rfl, h⟩
    · rw [run_insert_refused index template _ found hr] at hrun
      cases hrun
      exact hr
    · rw [run_insert_object index template cache header slots workspace next h] at hrun
      cases hrun
  · intro hr
    rw [run_insert_refused index template _ cause hr]

/-- An insertion is refused exactly if the parent is a scalar block or has fewer slots than the
index, and then nothing has been stored; else it has put the new child in and has told of that. -/
theorem insertChild_atomic :
    (insert index template).run bench = bench.store
      ((bench.cache.insertChild index template bench.parent bench.workspace).run bench.next) ∧
    (∀ cause, ((insert index template).run bench).1 = .error cause ↔
      Refused index bench.parent cause) ∧
    match (insert index template).run bench with
    | (.error _, after) => after = bench
    | (.ok id, after) =>
      ∃ result child, id = child.id ∧ Inserted index template bench after result child := by
  constructor
  · exact run_insert_eq_store index template bench
  constructor
  · exact error_run_insert_iff index template bench
  rcases refused_or_fits index bench.parent with ⟨cause, hr⟩ | ⟨header, slots, hp, h⟩
  · rw [run_insert_refused index template bench cause hr]
  · have hid := (bench.cache.id_created template bench.next).symm
    have hin := inserted_filled index template bench header slots hp h
    obtain ⟨cache, parent, workspace, next⟩ := bench
    simp only at hp
    subst hp
    rw [run_insert_object index template cache header slots workspace next h]
    exact ⟨_, _, hid, hin⟩

end Bench

end QueryBlocks
