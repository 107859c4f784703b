import Mathlib.Data.List.Forall2
import QueryBlocks.Proofs.Json.Records

/-!
# The places of a record

A record is read from an object by the names of its members, or from an array by their places in
the declaration. Either way, what is read of a member is what the value has in its place. Of two
members of an object with one name the later counts.
-/

set_option autoImplicit false

namespace QueryBlocks.Json

def place? (names : List String) (name : String) : Json → Option Json
  | .object members => findMember name members.reverse
  | .array items => items[names.idxOf name]?
  | _ => none

theorem readItems_forall₂ {α : Type} (read : Read α) (index : Nat) (items : List Json)
    (values : List α) (h : readItems read index items = .ok values) :
    List.Forall₂ (fun item value => read item = .ok value) items values := by
  induction items generalizing index values with
  | nil =>
    cases h
    exact .nil
  | cons item items ih =>
    rw [readItems, bind_eq_ok] at h
    obtain ⟨first, hf, h⟩ := h
    obtain ⟨rest, hr, h⟩ := (bind_eq_ok _ _ _).mp h
    cases h
    exact .cons ((within_eq_ok _ _ _).mp hf) (ih (index + 1) rest hr)

theorem readList_forall₂ {α : Type} (read : Read α) (value : Json) (values : List α)
    (h : readList read value = .ok values) :
    ∃ items, value = .array items ∧
      List.Forall₂ (fun item value => read item = .ok value) items values := by
  cases value with
  | array items => exact ⟨items, rfl, readItems_forall₂ read 0 items values h⟩
  | _ => cases h

section

variable {σ β : Type}

theorem Sets.tail (first : Member σ) (rest : List (Member σ)) (part : σ → β) (name : String)
    (read : Read β) (hne : first.name ≠ name) (h : Sets (first :: rest) part name read) :
    Sets rest part name read where
  known := by
    obtain ⟨m, hm, hname⟩ := h.known
    rcases List.mem_cons.mp hm with rfl | hm
    · exact absurd hname hne
    · exact ⟨m, hm, hname⟩
  own m hm := h.own m (List.mem_cons_of_mem _ hm)
  others m hm := h.others m (List.mem_cons_of_mem _ hm)

variable (label : String) (total : Nat) (declared : List (Member σ))

theorem readElements_nil (rest : List (Member σ)) (before after : σ)
    (h : readElements label total declared rest [] before = .ok after) : after = before := by
  induction rest with
  | nil => exact (Except.ok.inj h).symm
  | cons m rest ih =>
    rw [readElements] at h
    split at h
    · exact ih h
    · cases h

theorem readElements_cons (m : Member σ) (rest : List (Member σ)) (value : Json)
    (values : List Json) (before after : σ)
    (h : readElements label total declared (m :: rest) (value :: values) before = .ok after) :
    ∃ mid, m.read value before = .ok mid ∧
      readElements label total declared rest values mid = .ok after := by
  rw [readElements, bind_eq_ok] at h
  obtain ⟨mid, hm, h⟩ := h
  exact ⟨mid, (within_eq_ok _ _ _).mp hm, h⟩

theorem spares_readElements (part : σ → β) (rest : List (Member σ)) (values : List Json)
    (before after : σ) (hs : ∀ m ∈ rest, Spares part m)
    (h : readElements label total declared rest values before = .ok after) :
    part after = part before := by
  induction rest generalizing values before with
  | nil =>
    cases values with
    | nil => rw [readElements_nil label total declared [] before after h]
    | cons value values => cases h
  | cons m rest ih =>
    cases values with
    | nil => rw [readElements_nil label total declared _ before after h]
    | cons value values =>
      obtain ⟨mid, hm, hr⟩ := readElements_cons label total declared m rest value values _ _ h
      rw [ih values mid (fun other ho => hs other (List.mem_cons_of_mem _ ho)) hr]
      exact hs m List.mem_cons_self value before mid hm

theorem leaves_readElements (part : σ → β) (name : String) (read : Read β)
    (rest : List (Member σ)) (hn : (rest.map Member.name).Nodup) (hs : Sets rest part name read)
    (values : List Json) (before after : σ)
    (h : readElements label total declared rest values before = .ok after) :
    Leaves read values[(rest.map Member.name).idxOf name]? (part before) (part after) := by
  induction rest generalizing values before with
  | nil =>
    obtain ⟨m, hm, -⟩ := hs.known
    cases hm
  | cons m rest ih =>
    cases values with
    | nil =>
      rw [readElements_nil label total declared _ before after h]
      exact rfl
    | cons value values =>
      obtain ⟨mid, hm, hr⟩ := readElements_cons label total declared m rest value values _ _ h
      obtain ⟨hfresh, hrest⟩ := List.nodup_cons.mp hn
      by_cases hname : m.name = name
      · -- the names behind it are others, so nothing changes the part again
        have hspares : ∀ other ∈ rest, Spares part other := by
          intro other ho
          apply hs.others other (List.mem_cons_of_mem _ ho)
          rintro rfl
          exact hfresh (hname ▸ List.mem_map_of_mem ho)
        have hown := hs.own m List.mem_cons_self hname value before mid hm
        have hafter := spares_readElements label total declared part rest values mid after hspares hr
        simpa [hname, Leaves, hafter] using hown
      · have hspared := hs.others m List.mem_cons_self hname value before mid hm
        have hlater := ih hrest (hs.tail m rest part name read hname) values mid hr
        simpa [List.idxOf_cons_ne _ hname, hspared] using hlater

end

/-- What is read of a record is read in the places of its members, and the record is finished with
it. -/
theorem exists_readRecord {σ α : Type} (label : String) (declared : List (Member σ)) (empty : σ)
    (finish : σ → Except Mismatch α) (hn : (declared.map Member.name).Nodup) (value : Json)
    (result : α) (h : readRecord label declared empty finish value = .ok result) :
    ∃ record, finish record = .ok result ∧
      ∀ {β : Type} (part : σ → β) (name : String) (read : Read β), Sets declared part name read →
        Leaves read (place? (declared.map Member.name) name value) (part empty) (part record) := by
  cases value with
  | object members =>
    obtain ⟨record, hr, h⟩ := (bind_eq_ok _ _ _).mp h
    exact ⟨record, h, fun part name read hs =>
      leaves_lastMember declared part name read hs members empty record hr⟩
  | array items =>
    obtain ⟨record, hr, h⟩ := (bind_eq_ok _ _ _).mp h
    exact ⟨record, h, fun part name read hs =>
      leaves_readElements label _ declared part name read declared hn hs items empty record hr⟩
  | _ => cases h

end QueryBlocks.Json
