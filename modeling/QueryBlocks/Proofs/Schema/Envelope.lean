import QueryBlocks.Proofs.Json.Records
import QueryBlocks.Schema.Introspection

/-!
# What an answer must have to give a schema

An answer gives a schema if it has data that lists the types and no errors. Errors that are
null, or a list without entries, count as none.
-/

set_option autoImplicit false

namespace QueryBlocks.Introspection

open Json

theorem readPresent_eq_some (value found : Json) :
    readPresent value = .ok (some found) ↔ value ≠ .null ∧ value = found := by
  cases value <;> simp [readPresent]

def dataMember : Member Envelope :=
  settingMember "data" readPresent (fun e data => { e with data }) true

def errorsMember : Member Envelope :=
  settingMember "errors" (readOptional (readList readErrorEntry))
    (fun e errors => { e with errors }) true

theorem readEnvelope_object (members : List (String × Json)) :
    readEnvelope (.object members) =
      readMembers [dataMember, errorsMember] members { data := none, errors := none } := by
  change (readMembers [dataMember, errorsMember] members _ >>= Except.ok) = _
  cases readMembers [dataMember, errorsMember] members { data := none, errors := none } <;> rfl

theorem sets_data : Sets [dataMember, errorsMember] Envelope.data "data" readPresent :=
  sets_whole [] [errorsMember] _ _ _ _ _ (fun _ _ => rfl)
    (by simp [errorsMember, spares_settingMember])

theorem sets_errors : Sets [dataMember, errorsMember] Envelope.errors "errors"
    (readOptional (readList readErrorEntry)) :=
  sets_whole [dataMember] [] _ _ _ _ _ (fun _ _ => rfl)
    (by simp [dataMember, spares_settingMember])

/-- The envelope of an object holds what its members do. -/
theorem readEnvelope_eq_ok (members : List (String × Json))
    (hn : (members.map Prod.fst).Nodup) (e : Envelope) :
    readEnvelope (.object members) = .ok e ↔
      Leaves readPresent (findMember "data" members) none e.data ∧
        Leaves (readOptional (readList readErrorEntry)) (findMember "errors" members) none
          e.errors := by
  rw [readEnvelope_object]
  have forth (found : Envelope) (h : readMembers [dataMember, errorsMember] members
      { data := none, errors := none } = .ok found) :=
    And.intro (leaves_readMembers _ _ "data" _ sets_data members hn _ found h)
      (leaves_readMembers _ _ "errors" _ sets_errors members hn _ found h)
  refine ⟨forth e, fun ⟨hdata, herrors⟩ => ?_⟩
  have hread : ∀ m ∈ [dataMember, errorsMember], ∀ value,
      findMember m.name members = some value → ∀ s, ∃ s', m.read value s = .ok s' := by
    simp only [List.forall_mem_cons, dataMember, errorsMember, read_settingMember]
    refine ⟨fun value hf s => ?_, fun value hf s => ?_, fun _ h => (nomatch h)⟩
    · change findMember "data" members = some value at hf
      rw [hf] at hdata
      exact ⟨_, _, hdata, rfl⟩
    · change findMember "errors" members = some value at hf
      rw [hf] at herrors
      exact ⟨_, _, herrors, rfl⟩
  obtain ⟨found, hf⟩ := exists_readMembers _ members hn { data := none, errors := none } hread
  obtain ⟨hd, he⟩ := forth found hf
  obtain ⟨data, errors⟩ := e
  obtain ⟨data', errors'⟩ := found
  rw [hf, leaves_unique _ _ _ data data' hdata hd, leaves_unique _ _ _ errors errors' herrors he]

def Unreported (errors : Option Json) : Prop :=
  errors = none ∨ errors = some .null ∨ errors = some (.array [])

theorem unreported_some (errors : Json) :
    Unreported (some errors) ↔ errors = .null ∨ errors = .array [] := by
  simp [Unreported]

theorem leaves_errors (found : Option Json) (errors : Option (List (Option String)))
    (h : Leaves (readOptional (readList readErrorEntry)) found none errors) :
    Unreported found ↔ errors = none ∨ errors = some [] := by
  cases found with
  | none =>
    have he : errors = none := h
    exact ⟨fun _ => .inl he, fun _ => .inl rfl⟩
  | some value =>
    have hv : readOptional (readList readErrorEntry) value = .ok errors := h
    have hnone := readOptional_eq_none (readList readErrorEntry) value
    have hempty := readOptional_eq_some (readList readErrorEntry) value []
    rw [readList_eq_nil] at hempty
    rw [hv, Except.ok.injEq] at hnone hempty
    rw [Unreported, hnone, hempty, Option.some.injEq, Option.some.injEq]
    constructor
    · rintro (h | h | h)
      · cases h
      · exact .inl h
      · exact .inr ⟨by simp [h], h⟩
    · rintro (h | ⟨-, h⟩)
      · exact .inr (.inl h)
      · exact .inr (.inr h)

theorem leaves_data (found : Option Json) (data : Option Json) (value : Json)
    (h : Leaves readPresent found none data) :
    data = some value ↔ found = some value ∧ value ≠ .null := by
  cases found with
  | none =>
    have hd : data = none := h
    simp [hd]
  | some other =>
    have hv : readPresent other = .ok data := h
    have hsome := readPresent_eq_some other value
    rw [hv, Except.ok.injEq] at hsome
    rw [hsome, Option.some.injEq]
    constructor
    · rintro ⟨hn, rfl⟩
      exact ⟨rfl, hn⟩
    · rintro ⟨rfl, hn⟩
      exact ⟨hn, rfl⟩

def schemaIn (data : Json) : Except Problem Schema :=
  match readData data with
  | .error cause => .error (.malformed (.mismatch cause))
  | .ok listing => listing.toSchema.mapError .malformed

theorem schemaIn_eq_ok (data : Json) (schema : Schema) :
    schemaIn data = .ok schema ↔
      ∃ listing, readData data = .ok listing ∧ listing.toSchema = .ok schema := by
  unfold schemaIn
  cases readData data with
  | error cause => simp
  | ok listing => simp [Json.mapError_eq_ok]

theorem parse_eq_ok (body : Json) (schema : Schema) :
    parse body = .ok schema ↔
      ∃ e, readEnvelope body = .ok e ∧ (e.errors = none ∨ e.errors = some []) ∧
        ∃ data listing, e.data = some data ∧ readData data = .ok listing ∧
          listing.toSchema = .ok schema := by
  unfold parse
  cases readEnvelope body with
  | error cause => simp
  | ok e =>
    obtain ⟨data, errors⟩ := e
    cases data with
    | none => rcases errors with _ | _ | ⟨first, rest⟩ <;> simp
    | some data =>
      rcases errors with _ | _ | ⟨first, rest⟩
      · exact (schemaIn_eq_ok data schema).trans (by simp)
      · exact (schemaIn_eq_ok data schema).trans (by simp)
      · simp

/-- An object gives a schema exactly if it reports no errors and its data lists one. -/
theorem parse_object_eq_ok (members : List (String × Json)) (hn : (members.map Prod.fst).Nodup)
    (schema : Schema) :
    parse (.object members) = .ok schema ↔
      Unreported (findMember "errors" members) ∧
        ∃ data listing, findMember "data" members = some data ∧ data ≠ .null ∧
          readData data = .ok listing ∧ listing.toSchema = .ok schema := by
  rw [parse_eq_ok]
  constructor
  · rintro ⟨e, he, hnone, data, listing, hd, hl, hs⟩
    obtain ⟨hdata, herrors⟩ := (readEnvelope_eq_ok members hn e).mp he
    obtain ⟨hf, hne⟩ := (leaves_data _ _ data hdata).mp hd
    exact ⟨(leaves_errors _ _ herrors).mpr hnone, data, listing, hf, hne, hl, hs⟩
  · rintro ⟨hu, data, listing, hf, hne, hl, hs⟩
    obtain ⟨errors, herrors⟩ : ∃ errors, Leaves (readOptional (readList readErrorEntry))
        (findMember "errors" members) none errors := by
      rcases hu with h | h | h <;> rw [h] <;> exact ⟨_, rfl⟩
    have hdata : Leaves readPresent (findMember "data" members) none (some data) := by
      rw [hf]
      exact (readPresent_eq_some data data).mpr ⟨hne, rfl⟩
    exact ⟨{ data := some data, errors }, (readEnvelope_eq_ok members hn _).mpr ⟨hdata, herrors⟩,
      (leaves_errors _ _ herrors).mp hu, data, listing, rfl, hl, hs⟩

end QueryBlocks.Introspection
