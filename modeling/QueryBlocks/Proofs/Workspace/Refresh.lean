import QueryBlocks.Proofs.Schema.Answers
import QueryBlocks.Workspace.Sync

/-!
# Refreshing an endpoint

A refresh is all or nothing. With a schema it replaces the entry of its endpoint and is the pass
over the workspace under the new entry; without one it hands on the reason and changes nothing.
-/

set_option autoImplicit false

namespace QueryBlocks.SchemaCache

open Introspection (Says)

variable (cache : SchemaCache) (endpoint : String) (answer : Answer) (workspace : Workspace)

theorem refresh_of_error (cause : CacheError)
    (h : (FetchOutcome.ofAnswer endpoint answer).toExcept = .error cause) :
    cache.refresh endpoint answer workspace = (.error cause, cache, workspace) := by
  unfold refresh load
  cases ho : FetchOutcome.ofAnswer endpoint answer with
  | loaded schema =>
    rw [ho] at h
    cases h
  | transportFailed reason =>
    rw [ho] at h
    cases h
    rfl
  | schemaErrors reason =>
    rw [ho] at h
    cases h
    rfl

theorem refresh_of_schema (schema : Schema)
    (h : (FetchOutcome.ofAnswer endpoint answer).toExcept = .ok schema) :
    cache.refresh endpoint answer workspace =
      (.ok ((cache.insert endpoint schema).syncEndpoint endpoint workspace).1,
        cache.insert endpoint schema,
        ((cache.insert endpoint schema).syncEndpoint endpoint workspace).2) := by
  unfold refresh load
  cases ho : FetchOutcome.ofAnswer endpoint answer with
  | loaded found =>
    rw [ho] at h
    cases h
    rfl
  | transportFailed reason =>
    rw [ho] at h
    cases h
  | schemaErrors reason =>
    rw [ho] at h
    cases h

/-- An answer brings either a schema or a reason why there is none. With a reason, a refresh
returns it and leaves the cache and the whole workspace; with a schema, the cache has it for the
endpoint, every other entry is as before, and the report and the workspace are those of a pass
under that cache. Errors count before data, whatever the data is: each entry gives the message
that it has, or one that says that the error is unknown. -/
theorem refresh_all_or_nothing :
    (∃ result, Brings endpoint answer result ∧
      ∀ other, Brings endpoint answer other → other = result) ∧
    (∀ cause, Brings endpoint answer (.error cause) →
      cache.refresh endpoint answer workspace = (.error cause, cache, workspace)) ∧
    (∀ schema, Brings endpoint answer (.ok schema) →
      ∃ after : SchemaCache,
        (∀ other, after.get? other = if other = endpoint then some schema else cache.get? other) ∧
        cache.refresh endpoint answer workspace =
          (.ok (after.syncEndpoint endpoint workspace).1, after,
            (after.syncEndpoint endpoint workspace).2)) ∧
    (∀ members items messages, answer = .ok (.object members) → (members.map Prod.fst).Nodup →
      Json.findMember "errors" members = some (.array items) → items ≠ [] →
      List.Forall₂ Says items messages →
        Brings endpoint answer (.error (.schema { endpoint, messages }))) := by
  refine ⟨?_, ?_, ?_, ?_⟩
  · obtain ⟨result, hr⟩ := Brings.total endpoint answer
    refine ⟨result, hr, ?_⟩
    intro other ho
    exact (Brings.outcome endpoint answer other ho).symm.trans
      (Brings.outcome endpoint answer result hr)
  · intro cause h
    exact cache.refresh_of_error endpoint answer workspace cause (Brings.outcome _ _ _ h)
  · intro schema h
    refine ⟨cache.insert endpoint schema, ?_, ?_⟩
    · intro other
      exact cache.get?_insert endpoint other schema
    · exact cache.refresh_of_schema endpoint answer workspace schema (Brings.outcome _ _ _ h)
  · rintro members items messages rfl hn he hi ht
    exact Brings.ofSays endpoint members hn items messages he hi ht

def partialBody : Json :=
  .object
    [("data", .object [("__schema", .object
      [("queryType", .object [("name", .string "Query")]), ("types", .array [])])]),
     ("errors", .array [.object [("message", .string "Not allowed"), ("path", .array [])],
      .object [("message", .null)]])]

def partialReason : CacheError :=
  .schema { endpoint := "https://poke.example", messages := ["Not allowed", "unknown error"] }

/-- The data of the answer would do, but the errors count. -/
theorem refresh_all_or_nothing_partialBody :
    Brings "https://poke.example" (.ok partialBody) (.error partialReason) ∧
      empty.refresh "https://poke.example" (.ok partialBody) Workspace.empty =
        (.error partialReason, empty, Workspace.empty) := by
  have h := refresh_all_or_nothing empty "https://poke.example" (.ok partialBody) Workspace.empty
  have hs : List.Forall₂ Says
      [.object [("message", .string "Not allowed"), ("path", .array [])],
        .object [("message", .null)]] ["Not allowed", "unknown error"] :=
    .cons (.told _ (by decide) _ rfl) (.cons (.silent _ (by decide) (.inr rfl)) .nil)
  have hb := h.2.2.2 _ _ _ rfl (by decide) rfl (by simp) hs
  exact ⟨hb, h.2.1 _ hb⟩

end QueryBlocks.SchemaCache
