import QueryBlocks.Proofs.Schema.Listing
import QueryBlocks.Proofs.Schema.Loading

/-!
# What an answer means

An answer to the introspection document brings a schema or a reason why there is none. The reason
is found at one of four places: nothing came back, the envelope or the listing in it has not the
expected form, the endpoint reports errors, or the listing brings a name twice.
-/

set_option autoImplicit false

namespace QueryBlocks

open Json

namespace Introspection

def Envelope.Quiet (e : Envelope) : Prop := e.errors = none ∨ e.errors = some []

theorem parse_of_unread (body : Json) (cause : Mismatch) (h : readEnvelope body = .error cause) :
    parse body = .error (.malformed (.mismatch cause)) := by
  rw [parse, h]

theorem parse_of_reported (body : Json) (e : Envelope) (first : Option String)
    (rest : List (Option String)) (he : readEnvelope body = .ok e)
    (h : e.errors = some (first :: rest)) :
    parse body =
      .error (.errors ((first :: rest).map fun message => message.getD unknownError)) := by
  rw [parse, he]
  simp only [h]

theorem parse_of_blank (body : Json) (e : Envelope) (he : readEnvelope body = .ok e)
    (hq : e.Quiet) (hd : e.data = none) : parse body = .error (.malformed .noDataNorErrors) := by
  rw [parse, he]
  rcases hq with h | h <;> simp only [h, hd]

theorem parse_of_data (body data : Json) (e : Envelope) (he : readEnvelope body = .ok e)
    (hq : e.Quiet) (hd : e.data = some data) : parse body = schemaIn data := by
  rw [parse, he]
  rcases hq with h | h <;> simp only [h, hd] <;> rfl

inductive Says : Json → String → Prop where
  | told (members : List (String × Json)) (distinct : (members.map Prod.fst).Nodup) (text : String)
      (h : findMember "message" members = some (.string text)) : Says (.object members) text
  | silent (members : List (String × Json)) (distinct : (members.map Prod.fst).Nodup)
      (h : findMember "message" members = none ∨ findMember "message" members = some .null) :
      Says (.object members) unknownError

def messageMember : Member (Option String) :=
  { name := "message", read := fun value _ => readOptional readString value, defaulted := true }

theorem sets_message : Sets [messageMember] id "message" (readOptional readString) :=
  sets_single _ _ _

theorem readErrorEntry_object (members : List (String × Json))
    (hn : (members.map Prod.fst).Nodup) (message : Option String)
    (h : Leaves (readOptional readString) (findMember "message" members) none message) :
    readErrorEntry (.object members) = .ok message := by
  have hrecord : readErrorEntry (.object members) = readMembers [messageMember] members none := by
    change (readMembers [messageMember] members none >>= Except.ok) = _
    cases readMembers [messageMember] members none <;> rfl
  have hread : ∀ m ∈ [messageMember], ∀ value, findMember m.name members = some value →
      ∀ before, ∃ after, m.read value before = .ok after := by
    intro m hm value hv before
    rw [List.mem_singleton] at hm
    subst hm
    have hname : findMember "message" members = some value := hv
    rw [hname] at h
    exact ⟨message, h⟩
  obtain ⟨found, hf⟩ := exists_readMembers _ members hn none hread
  have hfound := leaves_readMembers _ _ "message" _ sets_message members hn none found hf
  rw [hrecord, hf, leaves_unique _ _ _ message found h hfound]

theorem readErrorEntry_says (item : Json) (text : String) (h : Says item text) :
    ∃ message, readErrorEntry item = .ok message ∧ message.getD unknownError = text := by
  cases h with
  | told members hn _ h =>
    refine ⟨some text, readErrorEntry_object members hn _ ?_, rfl⟩
    rw [h]
    rfl
  | silent members hn h =>
    refine ⟨none, readErrorEntry_object members hn _ ?_, rfl⟩
    rcases h with h | h <;> rw [h] <;> rfl

theorem readItems_says (items : List Json) (texts : List String)
    (h : List.Forall₂ Says items texts) (index : Nat) :
    ∃ messages, readItems readErrorEntry index items = .ok messages ∧
      messages.map (fun message => message.getD unknownError) = texts := by
  induction h generalizing index with
  | nil => exact ⟨[], rfl, rfl⟩
  | @cons item text items texts hi _ ih =>
    obtain ⟨message, hm, ht⟩ := readErrorEntry_says item text hi
    obtain ⟨messages, hms, hts⟩ := ih (index + 1)
    refine ⟨message :: messages, ?_, by rw [List.map_cons, ht, hts]⟩
    rw [readItems, (within_eq_ok _ _ _).mpr hm, hms]
    rfl

theorem readPresent_ok (value : Json) : ∃ data, readPresent value = .ok data := by
  cases value <;> exact ⟨_, rfl⟩

/-- The envelope of an object with a list of errors has the messages of the list. -/
theorem readEnvelope_says (members : List (String × Json)) (hn : (members.map Prod.fst).Nodup)
    (items : List Json) (texts : List String)
    (he : findMember "errors" members = some (.array items))
    (ht : List.Forall₂ Says items texts) :
    ∃ e messages, readEnvelope (.object members) = .ok e ∧ e.errors = some messages ∧
      messages.map (fun message => message.getD unknownError) = texts := by
  obtain ⟨messages, hm, hmessages⟩ := readItems_says items texts ht 0
  obtain ⟨data, hd⟩ : ∃ data, Leaves readPresent (findMember "data" members) none data := by
    cases findMember "data" members with
    | none => exact ⟨none, rfl⟩
    | some value => exact readPresent_ok value
  have herrors : Leaves (readOptional (readList readErrorEntry)) (findMember "errors" members)
      none (some messages) := by
    rw [he]
    refine (readOptional_eq_some _ _ _).mpr ⟨Json.noConfusion, hm⟩
  exact ⟨{ data, errors := some messages }, messages,
    (readEnvelope_eq_ok members hn _).mpr ⟨hd, herrors⟩, rfl, hmessages⟩

end Introspection

open Introspection

/-- What an answer brings for an endpoint: a schema, or the reason why there is none. -/
inductive Brings (endpoint : String) : Answer → Except CacheError Schema → Prop where
  | nothing (cause : TransportError) :
      Brings endpoint (.error cause) (.error (.fetch (.transport cause)))
  | unread (body : Json) (cause : Mismatch) (h : readEnvelope body = .error cause) :
      Brings endpoint (.ok body) (.error (.fetch (.malformed endpoint (.mismatch cause))))
  /-- One message for each entry, in order. -/
  | errors (body : Json) (e : Envelope) (first : Option String) (rest : List (Option String))
      (he : readEnvelope body = .ok e) (h : e.errors = some (first :: rest)) :
      Brings endpoint (.ok body) (.error (.schema
        { endpoint, messages := (first :: rest).map fun message => message.getD "unknown error" }))
  | blank (body : Json) (e : Envelope) (he : readEnvelope body = .ok e) (hq : e.Quiet)
      (hd : e.data = none) :
      Brings endpoint (.ok body) (.error (.fetch (.malformed endpoint .noDataNorErrors)))
  | unlisted (body data : Json) (e : Envelope) (cause : Mismatch)
      (he : readEnvelope body = .ok e) (hq : e.Quiet) (hd : e.data = some data)
      (h : readData data = .error cause) :
      Brings endpoint (.ok body) (.error (.fetch (.malformed endpoint (.mismatch cause))))
  | repeated (body data : Json) (e : Envelope) (listing : Listing) (before after : List ListedType)
      (again : ListedType) (he : readEnvelope body = .ok e) (hq : e.Quiet)
      (hd : e.data = some data) (hl : readData data = .ok listing)
      (ht : listing.types = before ++ again :: after)
      (distinct : (before.map ListedType.name).Nodup)
      (h : again.name ∈ before.map ListedType.name) :
      Brings endpoint (.ok body) (.error (.fetch (.malformed endpoint (.duplicateType again.name))))
  | schema (body data : Json) (e : Envelope) (listing : Listing) (schema : Schema)
      (he : readEnvelope body = .ok e) (hq : e.Quiet) (hd : e.data = some data)
      (hl : readData data = .ok listing) (query : listing.queryType = schema.queryType)
      (mutation : listing.mutationType = schema.mutationType)
      (types : listing.types.map ListedType.entry = schema.types.entries) :
      Brings endpoint (.ok body) (.ok schema)

namespace Brings

variable (endpoint : String)

theorem outcome_of_parse (body : Json) (problem : Problem) (h : parse body = .error problem) :
    (FetchOutcome.ofAnswer endpoint (.ok body)).toExcept = .error (match problem with
      | .errors messages => .schema { endpoint, messages }
      | .malformed cause => .fetch (.malformed endpoint cause)) := by
  simp only [FetchOutcome.ofAnswer, h]
  cases problem <;> rfl

theorem schemaIn_of_error (data : Json) (listing : Listing) (cause : Malformation)
    (hl : readData data = .ok listing) (h : listing.toSchema = .error cause) :
    schemaIn data = .error (.malformed cause) := by
  rw [schemaIn, hl]
  simp only [h]
  rfl

/-- An answer brings nothing else than what its outcome hands on. -/
theorem outcome (answer : Answer) (result : Except CacheError Schema)
    (h : Brings endpoint answer result) :
    (FetchOutcome.ofAnswer endpoint answer).toExcept = result := by
  cases h with
  | nothing cause => rfl
  | unread body cause h => exact outcome_of_parse endpoint body _ (parse_of_unread body cause h)
  | errors body e first rest he h =>
    exact outcome_of_parse endpoint body _ (parse_of_reported body e first rest he h)
  | blank body e he hq hd =>
    exact outcome_of_parse endpoint body _ (parse_of_blank body e he hq hd)
  | unlisted body data e cause he hq hd h =>
    have hs : schemaIn data = .error (.malformed (.mismatch cause)) := by rw [schemaIn, h]
    exact outcome_of_parse endpoint body _ ((parse_of_data body data e he hq hd).trans hs)
  | repeated body data e listing before after again he hq hd hl ht distinct h =>
    have hs := schemaIn_of_error data listing _ hl
      (toSchema_repeated listing before after again ht distinct h)
    exact outcome_of_parse endpoint body _ ((parse_of_data body data e he hq hd).trans hs)
  | schema body data e listing schema he hq hd hl query mutation types =>
    have hs : schemaIn data = .ok schema :=
      (schemaIn_eq_ok data schema).mpr
        ⟨listing, hl, toSchema_eq_ok listing schema query mutation types⟩
    simp only [FetchOutcome.ofAnswer, parse_of_data body data e he hq hd, hs]
    rfl

theorem ofListing (body data : Json) (e : Envelope) (listing : Listing)
    (he : readEnvelope body = .ok e) (hq : e.Quiet) (hd : e.data = some data)
    (hl : readData data = .ok listing) : ∃ result, Brings endpoint (.ok body) result := by
  rcases distinct_or_repeated listing.types with hn | ⟨before, again, after, ht, hn, ha⟩
  · exact ⟨_, .schema body data e listing
      { queryType := listing.queryType, mutationType := listing.mutationType
        types := catalogOf listing.types hn } he hq hd hl rfl rfl rfl⟩
  · exact ⟨_, .repeated body data e listing before after again he hq hd hl ht hn ha⟩

theorem ofQuiet (body : Json) (e : Envelope) (he : readEnvelope body = .ok e) (hq : e.Quiet) :
    ∃ result, Brings endpoint (.ok body) result := by
  cases hd : e.data with
  | none => exact ⟨_, .blank body e he hq hd⟩
  | some data =>
    cases hl : readData data with
    | error cause => exact ⟨_, .unlisted body data e cause he hq hd hl⟩
    | ok listing => exact ofListing endpoint body data e listing he hq hd hl

/-- Every answer brings something. -/
theorem total (answer : Answer) : ∃ result, Brings endpoint answer result := by
  cases answer with
  | error cause => exact ⟨_, .nothing cause⟩
  | ok body =>
    cases he : readEnvelope body with
    | error cause => exact ⟨_, .unread body cause he⟩
    | ok e =>
      cases hr : e.errors with
      | none => exact ofQuiet endpoint body e he (.inl hr)
      | some messages =>
        cases messages with
        | nil => exact ofQuiet endpoint body e he (.inr hr)
        | cons first rest => exact ⟨_, .errors body e first rest he hr⟩

theorem ofSays (members : List (String × Json)) (hn : (members.map Prod.fst).Nodup)
    (items : List Json) (texts : List String)
    (he : findMember "errors" members = some (.array items)) (hi : items ≠ [])
    (ht : List.Forall₂ Says items texts) :
    Brings endpoint (.ok (.object members)) (.error (.schema { endpoint, messages := texts })) := by
  obtain ⟨e, messages, hread, herrors, rfl⟩ := readEnvelope_says members hn items texts he ht
  cases messages with
  | nil =>
    cases ht
    exact absurd rfl hi
  | cons first rest => exact .errors _ e first rest hread herrors

end Brings

end QueryBlocks
