import QueryBlocks.Schema.Cache

/-!
# What a load leaves

A load hands on what the answer means, and the cache gets a new entry only with a schema.
-/

set_option autoImplicit false

namespace QueryBlocks

namespace FetchOutcome

theorem ofAnswer_eq_loaded (endpoint : String) (answer : Answer) (schema : Schema) :
    ofAnswer endpoint answer = .loaded schema ↔
      ∃ body, answer = .ok body ∧ Introspection.parse body = .ok schema := by
  cases answer with
  | error cause => simp [ofAnswer]
  | ok body =>
    have hb : (∃ other, (.ok body : Answer) = .ok other ∧ Introspection.parse other = .ok schema) ↔
        Introspection.parse body = .ok schema := by simp
    rw [hb]
    unfold ofAnswer
    cases hp : Introspection.parse body with
    | error problem => cases problem <;> simp [hp]
    | ok found => simp [hp]

end FetchOutcome

namespace SchemaCache

theorem outcome_load (cache : SchemaCache) (endpoint : String) (answer : Answer) :
    (cache.load endpoint answer).1 = FetchOutcome.ofAnswer endpoint answer := by
  unfold load
  cases FetchOutcome.ofAnswer endpoint answer <;> rfl

theorem get?_insert (cache : SchemaCache) (endpoint other : String) (schema : Schema) :
    (cache.insert endpoint schema).get? other =
      if other = endpoint then some schema else cache.get? other :=
  Dictionary.find?_insert cache.schemas endpoint other schema

/-- A load that brings no schema leaves the cache. -/
theorem load_failure (cache : SchemaCache) (endpoint : String) (answer : Answer)
    (h : ∀ schema, (cache.load endpoint answer).1 ≠ .loaded schema) :
    (cache.load endpoint answer).2 = cache := by
  unfold load at h ⊢
  cases ho : FetchOutcome.ofAnswer endpoint answer with
  | loaded schema =>
    rw [ho] at h
    exact absurd rfl (h schema)
  | transportFailed cause => rfl
  | schemaErrors cause => rfl

end SchemaCache

end QueryBlocks
