import QueryBlocks.Proofs.Json.Ordered
import QueryBlocks.Proofs.Schema.Envelope
import QueryBlocks.Proofs.Schema.Loading
import QueryBlocks.Transport.Client
import QueryBlocks.Transport.Http

/-!
# Answers with a failed status

A body with an `errors` member gets past a failed status, whatever the member holds. Sending
looks for the member only, an operation for a list with entries, and a load for anything other
than null and the empty list; what falls between is taken for a success.
-/

set_option autoImplicit false

namespace QueryBlocks

def IsReport (errors : Json) : Prop := ∃ first rest, errors = .array (first :: rest)

namespace OperationOutcome

theorem ofBody_eq_data (endpoint : String) (body value : Json) :
    ofBody endpoint body = .ok (.data value) ↔
      (∀ errors, body.get? "errors" = some errors → ¬ IsReport errors) ∧
        body.get? "data" = some value := by
  unfold ofBody
  split
  · next first rest h =>
    rw [h]
    refine ⟨fun hd => (nomatch hd), fun hd => absurd ⟨first, rest, rfl⟩ (hd.1 _ rfl)⟩
  · next hn =>
    have hreport : ∀ errors, body.get? "errors" = some errors → ¬ IsReport errors := by
      rintro errors he ⟨first, rest, rfl⟩
      exact hn first rest he
    cases body.get? "data" with
    | none => simp
    | some found => simpa using fun _ => hreport

theorem ofAnswer_ok (endpoint : String) (body : Json) :
    ofAnswer endpoint (.ok body) = ofBody endpoint body := rfl

end OperationOutcome

namespace Http

/-- Past a failed status come only bodies with an `errors` member. -/
theorem receive_failed (endpoint : String) (status : Nat) (text : String) (body : Json)
    (h : isSuccess status = false) :
    receive endpoint status text = .ok body ↔
      Json.parse (withoutMark text) = .ok body ∧ ∃ errors, body.get? "errors" = some errors := by
  unfold receive
  cases Json.parse (withoutMark text) with
  | error cause => simp [h]
  | ok found =>
    simp only [h, Bool.false_or, Except.ok.injEq]
    constructor
    · intro hr
      split at hr
      · next hs =>
        cases hr
        exact ⟨rfl, Option.isSome_iff_exists.mp hs⟩
      · cases hr
    · rintro ⟨rfl, hs⟩
      rw [if_pos (Option.isSome_iff_exists.mpr hs)]

/-- An operation takes a failed answer for data if its `errors` member is no list with entries. -/
theorem data_of_failed (endpoint : String) (status : Nat) (text : String) (value : Json)
    (h : isSuccess status = false) :
    OperationOutcome.ofAnswer endpoint (receive endpoint status text) = .ok (.data value) ↔
      ∃ body errors, Json.parse (withoutMark text) = .ok body ∧
        body.get? "errors" = some errors ∧ ¬ IsReport errors ∧
        body.get? "data" = some value := by
  constructor
  · intro hd
    cases hr : receive endpoint status text with
    | error cause =>
      rw [hr] at hd
      cases hd
    | ok body =>
      obtain ⟨hp, errors, he⟩ := (receive_failed endpoint status text body h).mp hr
      rw [hr, OperationOutcome.ofAnswer_ok, OperationOutcome.ofBody_eq_data] at hd
      exact ⟨body, errors, hp, he, hd.1 errors he, hd.2⟩
  · rintro ⟨body, errors, hp, he, hn, hv⟩
    rw [(receive_failed endpoint status text body h).mpr ⟨hp, errors, he⟩,
      OperationOutcome.ofAnswer_ok, OperationOutcome.ofBody_eq_data]
    refine ⟨fun other ho => ?_, hv⟩
    rw [he] at ho
    cases ho
    exact hn

/-- A load takes a failed answer for a schema if its `errors` member is null or has no
entries. -/
theorem loaded_of_failed (endpoint : String) (status : Nat) (text : String)
    (cache : SchemaCache) (schema : Schema) (h : isSuccess status = false) :
    (cache.load endpoint (receive endpoint status text)).1 = .loaded schema ↔
      ∃ body errors data listing, Json.parse (withoutMark text) = .ok body ∧
        body.get? "errors" = some errors ∧ (errors = .null ∨ errors = .array []) ∧
        body.get? "data" = some data ∧ data ≠ .null ∧
        Introspection.readData data = .ok listing ∧ listing.toSchema = .ok schema := by
  rw [SchemaCache.outcome_load, FetchOutcome.ofAnswer_eq_loaded]
  constructor
  · rintro ⟨body, hr, hs⟩
    obtain ⟨hp, errors, he⟩ := (receive_failed endpoint status text body h).mp hr
    -- only an object has an `errors` member, and one that was read has it once
    cases body with
    | object members =>
      obtain ⟨hu, data, listing, hd, hne, hl, ht⟩ :=
        (Introspection.parse_object_eq_ok members (Json.nodup_parse _ members hp) schema).mp hs
      have hf : Json.findMember "errors" members = some errors := he
      rw [hf, Introspection.unreported_some] at hu
      exact ⟨_, errors, data, listing, hp, he, hu, hd, hne, hl, ht⟩
    | _ => cases he
  · rintro ⟨body, errors, data, listing, hp, he, hu, hd, hne, hl, ht⟩
    refine ⟨body, (receive_failed endpoint status text body h).mpr ⟨hp, errors, he⟩, ?_⟩
    cases body with
    | object members =>
      refine (Introspection.parse_object_eq_ok members (Json.nodup_parse _ members hp)
        schema).mpr ⟨?_, data, listing, hd, hne, hl, ht⟩
      have hf : Json.findMember "errors" members = some errors := he
      rw [hf, Introspection.unreported_some]
      exact hu
    | _ => cases he

/-- What becomes of an answer with a failed status. An operation takes it for data exactly if
its body has an `errors` member that is no list with entries, and data; a load takes it for a
schema exactly if the `errors` member is null or the empty list and the data lists the types.
Otherwise a load leaves the cache as it was. -/
theorem failed_status (endpoint : String) (status : Nat) (text : String)
    (h : isSuccess status = false) :
    (∀ value,
      OperationOutcome.ofAnswer endpoint (receive endpoint status text) = .ok (.data value) ↔
        ∃ body errors, Json.parse (withoutMark text) = .ok body ∧
          body.get? "errors" = some errors ∧ ¬ IsReport errors ∧
          body.get? "data" = some value) ∧
    (∀ (cache : SchemaCache) schema,
      (cache.load endpoint (receive endpoint status text)).1 = .loaded schema ↔
        ∃ body errors data listing, Json.parse (withoutMark text) = .ok body ∧
          body.get? "errors" = some errors ∧ (errors = .null ∨ errors = .array []) ∧
          body.get? "data" = some data ∧ data ≠ .null ∧
          Introspection.readData data = .ok listing ∧ listing.toSchema = .ok schema) ∧
    (∀ cache : SchemaCache,
      (∀ schema, (cache.load endpoint (receive endpoint status text)).1 ≠ .loaded schema) →
        (cache.load endpoint (receive endpoint status text)).2 = cache) :=
  ⟨fun value => data_of_failed endpoint status text value h,
    fun cache schema => loaded_of_failed endpoint status text cache schema h,
    fun cache => cache.load_failure endpoint (receive endpoint status text)⟩

def emptyListText : String :=
  "\x7b\"data\":\x7b\"__schema\":\x7b\"queryType\":\x7b\"name\":\"Query\"\x7d," ++
    "\"types\":[]\x7d\x7d,\"errors\":[]\x7d"

def emptyListData : Json :=
  .object [("__schema", .object
    [("queryType", .object [("name", .string "Query")]), ("types", .array [])])]

def emptyListBody : Json := .object [("data", emptyListData), ("errors", .array [])]

theorem parse_emptyListText : Json.parse (withoutMark emptyListText) = .ok emptyListBody := by
  rfl

theorem failed_status_emptyListText :
    isSuccess 500 = false ∧
      OperationOutcome.ofAnswer "https://poke.example"
        (receive "https://poke.example" 500 emptyListText) = .ok (.data emptyListData) ∧
      (SchemaCache.empty.load "https://poke.example"
          (receive "https://poke.example" 500 emptyListText)).1 =
        .loaded { queryType := "Query", mutationType := none, types := .empty } := by
  have h := failed_status "https://poke.example" 500 emptyListText (by decide)
  refine ⟨by decide, (h.1 emptyListData).mpr ?_, (h.2.1 .empty _).mpr ?_⟩
  · refine ⟨emptyListBody, .array [], parse_emptyListText, rfl, ?_, rfl⟩
    rintro ⟨first, rest, he⟩
    cases he
  · exact ⟨emptyListBody, .array [], emptyListData,
      { queryType := "Query", mutationType := none, types := [] }, parse_emptyListText, rfl,
      .inr rfl, rfl, Json.noConfusion, rfl, rfl⟩

/-- A failed status alone keeps an answer neither from being taken for data nor from replacing
a schema. -/
theorem failed_status_taken_for_success :
    (¬ ∀ endpoint status text value, isSuccess status = false →
      OperationOutcome.ofAnswer endpoint (receive endpoint status text) ≠ .ok (.data value)) ∧
    (¬ ∀ (cache : SchemaCache) endpoint status text, isSuccess status = false →
      (∀ schema, (cache.load endpoint (receive endpoint status text)).1 ≠ .loaded schema) ∧
        (cache.load endpoint (receive endpoint status text)).2 = cache) := by
  have hr : receive "https://poke.example" 500 emptyListText = .ok emptyListBody :=
    (receive_failed _ _ _ _ (by decide)).mpr ⟨parse_emptyListText, _, rfl⟩
  constructor
  · intro h
    have hd := h "https://poke.example" 500 emptyListText emptyListData (by decide)
    rw [hr] at hd
    exact hd rfl
  · intro h
    have hl := (h .empty "https://poke.example" 500 emptyListText (by decide)).1
    rw [hr] at hl
    exact hl _ rfl

end Http

end QueryBlocks
