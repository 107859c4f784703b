import QueryBlocks.Proofs.Transport.FailedStatus

/-!
# Bodies that report errors

A load takes no schema from a body whose `errors` member is anything other than null and the
empty list, whatever else the body has. An operation looks for a list only: with an `errors`
member of any other form it takes the data of such a body for its result.
-/

set_option autoImplicit false

namespace QueryBlocks

open Json (findMember)

namespace SchemaCache

/-- A load without a schema fails and leaves the cache. -/
theorem load_of_unparsed (cache : SchemaCache) (endpoint : String) (body : Json)
    (h : ∀ schema, Introspection.parse body ≠ .ok schema) :
    (∀ schema, (cache.load endpoint (.ok body)).1 ≠ .loaded schema) ∧
      (cache.load endpoint (.ok body)).2 = cache := by
  have hl : ∀ schema, (cache.load endpoint (.ok body)).1 ≠ .loaded schema := by
    intro schema hs
    rw [outcome_load, FetchOutcome.ofAnswer_eq_loaded] at hs
    obtain ⟨other, ho, hp⟩ := hs
    cases ho
    exact h schema hp
  exact ⟨hl, cache.load_failure endpoint (.ok body) hl⟩

end SchemaCache

/-- Nothing but a list with entries keeps an operation from the data next to it. -/
theorem OperationOutcome.data_beside_errors (endpoint : String) (members : List (String × Json))
    (errors value : Json) (h : findMember "errors" members = some errors) :
    ofAnswer endpoint (.ok (.object members)) = .ok (.data value) ↔
      ¬ IsReport errors ∧ findMember "data" members = some value := by
  have he : (Json.object members).get? "errors" = some errors := h
  rw [ofAnswer_ok, ofBody_eq_data]
  refine and_congr ⟨fun hr => hr errors he, fun hr other ho => ?_⟩ Iff.rfl
  rw [he] at ho
  cases ho
  exact hr

/-- What becomes of a body with an `errors` member that is neither null nor an empty list. No
schema comes of it and a load leaves the cache as it was. An operation takes its data for a
success exactly if the member is no list with entries. -/
theorem outcomes_beside_errors (members : List (String × Json))
    (distinct : (members.map Prod.fst).Nodup) (errors : Json)
    (h : findMember "errors" members = some errors) (hnull : errors ≠ .null)
    (hempty : errors ≠ .array []) :
    (∀ schema, Introspection.parse (.object members) ≠ .ok schema) ∧
    (∀ (cache : SchemaCache) endpoint,
      (∀ schema, (cache.load endpoint (.ok (.object members))).1 ≠ .loaded schema) ∧
        (cache.load endpoint (.ok (.object members))).2 = cache) ∧
    (∀ endpoint value,
      OperationOutcome.ofAnswer endpoint (.ok (.object members)) = .ok (.data value) ↔
        (∀ first rest, errors ≠ .array (first :: rest)) ∧
          findMember "data" members = some value) := by
  have hp : ∀ schema, Introspection.parse (.object members) ≠ .ok schema := by
    intro schema hs
    have hu := ((Introspection.parse_object_eq_ok members distinct schema).mp hs).1
    rw [h, Introspection.unreported_some] at hu
    exact hu.elim hnull hempty
  refine ⟨hp, fun cache endpoint => cache.load_of_unparsed endpoint _ hp, ?_⟩
  intro endpoint value
  rw [OperationOutcome.data_beside_errors endpoint members errors value h]
  simp only [IsReport, not_exists, ne_eq]

def loneErrorMembers : List (String × Json) :=
  [("data", .object [("pokemon", .string "Pikachu")]),
    ("errors", .object [("message", .string "boom")])]

theorem outcomes_beside_lone_error :
    (loneErrorMembers.map Prod.fst).Nodup ∧
      findMember "errors" loneErrorMembers = some (.object [("message", .string "boom")]) ∧
      (∀ schema, Introspection.parse (.object loneErrorMembers) ≠ .ok schema) ∧
      OperationOutcome.ofAnswer "https://poke.example" (.ok (.object loneErrorMembers)) =
        .ok (.data (.object [("pokemon", .string "Pikachu")])) := by
  have hd : (loneErrorMembers.map Prod.fst).Nodup := by decide
  have h := outcomes_beside_errors loneErrorMembers hd _ rfl Json.noConfusion Json.noConfusion
  refine ⟨hd, rfl, h.1, (h.2.2 "https://poke.example" _).mpr ⟨?_, rfl⟩⟩
  intro first rest he
  cases he

/-- An `errors` member that is neither null nor an empty list does not keep an operation from
taking the data of a body for its result. -/
theorem data_taken_beside_errors :
    ¬ ∀ (endpoint : String) (members : List (String × Json)) (errors value : Json),
      (members.map Prod.fst).Nodup → findMember "errors" members = some errors →
        errors ≠ .null → errors ≠ .array [] →
          OperationOutcome.ofAnswer endpoint (.ok (.object members)) ≠ .ok (.data value) := by
  intro h
  exact h "https://poke.example" loneErrorMembers _ _ (by decide) rfl Json.noConfusion
    Json.noConfusion rfl

end QueryBlocks
