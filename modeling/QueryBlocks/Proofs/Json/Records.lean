import QueryBlocks.Json.Record

/-!
# What is read of a record

Each part of a record is set by the member of one name. Where no key comes twice in an object,
reading leaves in the part what that member holds, or what stood there before if the object has
no such member; and reading fails only where a member that is there cannot be read.
-/

set_option autoImplicit false

namespace QueryBlocks.Json

theorem mapError_eq_ok {ε δ α : Type} (f : ε → δ) (result : Except ε α) (value : α) :
    result.mapError f = .ok value ↔ result = .ok value := by
  cases result with
  | error cause => exact ⟨fun h => (nomatch h), fun h => (nomatch h)⟩
  | ok found =>
    change (.ok found : Except δ α) = .ok value ↔ _
    rw [Except.ok.injEq, Except.ok.injEq]

theorem bind_eq_ok {ε α β : Type} (first : Except ε α) (f : α → Except ε β) (result : β) :
    (first >>= f) = .ok result ↔ ∃ value, first = .ok value ∧ f value = .ok result := by
  cases first <;> simp [bind, Except.bind]

theorem within_eq_ok {α : Type} (step : PathStep) (result : Except Mismatch α) (value : α) :
    within step result = .ok value ↔ result = .ok value :=
  mapError_eq_ok (Mismatch.inside step) result value

theorem findMember_eq_none (key : String) (members : List (String × Json))
    (h : key ∉ members.map Prod.fst) : findMember key members = none := by
  induction members with
  | nil => rfl
  | cons m members ih =>
    rw [List.map_cons, List.mem_cons, not_or] at h
    rw [findMember, if_neg (Ne.symm h.1), ih h.2]

theorem findMember_append (key : String) (members more : List (String × Json)) :
    findMember key (members ++ more) = (findMember key members).or (findMember key more) := by
  induction members with
  | nil => rfl
  | cons m members ih =>
    rw [List.cons_append, findMember, findMember]
    split
    · rfl
    · exact ih

/-- Where no key comes twice it does not matter from which end a member is looked for. -/
theorem findMember_reverse (key : String) (members : List (String × Json))
    (hn : (members.map Prod.fst).Nodup) : findMember key members.reverse = findMember key members := by
  induction members with
  | nil => rfl
  | cons m members ih =>
    obtain ⟨k, value⟩ := m
    obtain ⟨hk, hrest⟩ := List.nodup_cons.mp hn
    rw [List.reverse_cons, findMember_append, ih hrest, findMember]
    by_cases h : k = key
    · subst h
      simp [findMember, findMember_eq_none k members hk]
    · simp [findMember, h]

section

variable {α : Type} (read : Read α)

theorem readItems_eq_nil (index : Nat) (items : List Json) :
    readItems read index items = .ok [] ↔ items = [] := by
  cases items with
  | nil => exact ⟨fun _ => rfl, fun _ => rfl⟩
  | cons item items =>
    refine ⟨fun h => ?_, fun h => (nomatch h)⟩
    rw [readItems, bind_eq_ok] at h
    obtain ⟨first, -, h⟩ := h
    obtain ⟨rest, -, h⟩ := (bind_eq_ok _ _ _).mp h
    cases h

theorem readList_eq_nil (value : Json) : readList read value = .ok [] ↔ value = .array [] := by
  cases value with
  | array items => exact (readItems_eq_nil read 0 items).trans (by simp)
  | _ => exact ⟨fun h => (nomatch h), fun h => (nomatch h)⟩

theorem readOptional_of_ne (value : Json) (h : value ≠ .null) :
    readOptional read value = (read value).map some := by
  cases value with
  | null => exact absurd rfl h
  | _ => rfl

theorem readOptional_eq_none (value : Json) :
    readOptional read value = .ok none ↔ value = .null := by
  by_cases hn : value = .null
  · subst hn
    exact ⟨fun _ => rfl, fun _ => rfl⟩
  · rw [readOptional_of_ne read value hn]
    cases read value <;> simp [Except.map, hn]

theorem readOptional_eq_some (value : Json) (found : α) :
    readOptional read value = .ok (some found) ↔ value ≠ .null ∧ read value = .ok found := by
  by_cases hn : value = .null
  · subst hn
    exact ⟨fun h => (nomatch h), fun h => absurd rfl h.1⟩
  · rw [readOptional_of_ne read value hn]
    cases read value <;> simp [Except.map, hn]

end

def Leaves {β : Type} (read : Read β) (found : Option Json) (before after : β) : Prop :=
  match found with
  | none => after = before
  | some value => read value = .ok after

theorem leaves_unique {β : Type} (read : Read β) (found : Option Json) (before a b : β)
    (ha : Leaves read found before a) (hb : Leaves read found before b) : a = b := by
  cases found with
  | none => exact ha.trans hb.symm
  | some value => exact Except.ok.inj (Eq.trans (Eq.symm ha) hb)

/-- What holds of all that is read and of what stood there before holds of what is left. -/
theorem holds_of_leaves {β : Type} (p : β → Prop) (read : Read β) (found : Option Json)
    (before after : β) (h : Leaves read found before after) (hbefore : p before)
    (hread : ∀ value result, read value = .ok result → p result) : p after := by
  cases found with
  | none =>
    rw [show after = before from h]
    exact hbefore
  | some value => exact hread value after h

section

variable {σ β : Type}

def settingMember (name : String) (read : Read β) (put : σ → β → σ) (defaulted : Bool) :
    Member σ :=
  { name, read := fun value s => do return put s (← read value), defaulted }

@[simp] theorem name_settingMember (name : String) (read : Read β) (put : σ → β → σ)
    (defaulted : Bool) : (settingMember name read put defaulted).name = name := rfl

theorem read_settingMember (name : String) (read : Read β) (put : σ → β → σ) (defaulted : Bool)
    (value : Json) (s s' : σ) :
    (settingMember name read put defaulted).read value s = .ok s' ↔
      ∃ found, read value = .ok found ∧ put s found = s' := by
  simp only [settingMember]
  cases read value <;> simp [bind, Except.bind, pure, Except.pure]

def Spares (part : σ → β) (m : Member σ) : Prop :=
  ∀ value s s', m.read value s = .ok s' → part s' = part s

theorem spares_settingMember {γ : Type} (part : σ → β) (name : String) (read : Read γ)
    (put : σ → γ → σ) (defaulted : Bool) (h : ∀ s found, part (put s found) = part s) :
    Spares part (settingMember name read put defaulted) := by
  intro value s s' hr
  obtain ⟨found, -, rfl⟩ := (read_settingMember name read put defaulted value s s').mp hr
  exact h s found

/-- The member of a name sets a part of the record to what it reads, and no other member
changes that part. -/
structure Sets (declared : List (Member σ)) (part : σ → β) (name : String) (read : Read β) :
    Prop where
  known : ∃ m ∈ declared, m.name = name
  own : ∀ m ∈ declared, m.name = name → ∀ value s s', m.read value s = .ok s' →
    read value = .ok (part s')
  others : ∀ m ∈ declared, m.name ≠ name → Spares part m

theorem sets_among (before after : List (Member σ)) {γ : Type} (part : σ → γ) (f : β → γ) (name : String)
    (read : Read β) (put : σ → β → σ) (defaulted : Bool)
    (hput : ∀ s found, part (put s found) = f found)
    (hothers : ∀ m ∈ before ++ after, m.name ≠ name ∧ Spares part m) :
    Sets (before ++ settingMember name read put defaulted :: after) part name
      (fun value => (read value).map f) where
  known := ⟨settingMember name read put defaulted, by simp, rfl⟩
  own m hm hname value s s' hr := by
    have hcases : m = settingMember name read put defaulted ∨ m ∈ before ++ after := by
      simpa [or_left_comm] using hm
    rcases hcases with rfl | hm
    · obtain ⟨found, hf, rfl⟩ := (read_settingMember name read put defaulted value s s').mp hr
      simp [hf, hput, Except.map]
    · exact absurd hname (hothers m hm).1
  others m hm hname := by
    have hcases : m = settingMember name read put defaulted ∨ m ∈ before ++ after := by
      simpa [or_left_comm] using hm
    rcases hcases with rfl | hm
    · exact absurd rfl hname
    · exact (hothers m hm).2

theorem sets_whole (before after : List (Member σ)) (part : σ → β) (name : String)
    (read : Read β) (put : σ → β → σ) (defaulted : Bool)
    (hput : ∀ s found, part (put s found) = found)
    (hothers : ∀ m ∈ before ++ after, m.name ≠ name ∧ Spares part m) :
    Sets (before ++ settingMember name read put defaulted :: after) part name read := by
  simpa using sets_among before after part id name read put defaulted hput hothers

def wholeMember (name : String) (read : Read β) (defaulted : Bool) : Member β :=
  { name, read := fun value _ => read value, defaulted }

theorem sets_single (name : String) (read : Read β) (defaulted : Bool) :
    Sets [wholeMember name read defaulted] id name read where
  known := ⟨_, List.mem_cons_self, rfl⟩
  own m hm _ value before after hr := by
    rw [List.mem_singleton] at hm
    subst hm
    exact hr
  others m hm hne := by
    rw [List.mem_singleton] at hm
    subst hm
    exact absurd rfl hne

/-- Of several members with the name of a part the last one leaves what it holds. -/
theorem leaves_lastMember (declared : List (Member σ)) (part : σ → β) (name : String)
    (read : Read β) (hs : Sets declared part name read) (members : List (String × Json))
    (before after : σ) (h : readMembers declared members before = .ok after) :
    Leaves read (findMember name members.reverse) (part before) (part after) := by
  induction members generalizing before with
  | nil =>
    cases h
    rfl
  | cons m members ih =>
    obtain ⟨key, value⟩ := m
    rw [readMembers] at h
    rw [List.reverse_cons, findMember_append]
    cases hf : declared.find? (fun m => m.name == key) with
    | none =>
      have hne : ¬ key = name := by
        rintro rfl
        obtain ⟨m, hm, hname⟩ := hs.known
        exact List.find?_eq_none.mp hf m hm (beq_iff_eq.mpr hname)
      rw [hf] at h
      simpa [findMember, hne] using ih before h
    | some m =>
      have hmem := List.mem_of_find?_eq_some hf
      have hname : m.name = key := by simpa using List.find?_some hf
      rw [hf] at h
      obtain ⟨mid, hw, h⟩ := (bind_eq_ok _ _ _).mp h
      rw [within_eq_ok] at hw
      have hafter := ih mid h
      cases hl : findMember name members.reverse with
      | some later => simpa [hl, Leaves] using hafter
      | none =>
        have hmid : part after = part mid := by simpa [hl, Leaves] using hafter
        by_cases hk : key = name
        · subst hk
          simpa [findMember, Leaves, hmid] using hs.own m hmem hname value before mid hw
        · have hspared := hs.others m hmem (fun hm => hk (hname.symm.trans hm)) value before mid hw
          simpa [findMember, hk, Leaves, hmid] using hspared

theorem leaves_readMembers (declared : List (Member σ)) (part : σ → β) (name : String)
    (read : Read β) (hs : Sets declared part name read) (members : List (String × Json))
    (hn : (members.map Prod.fst).Nodup) (before after : σ)
    (h : readMembers declared members before = .ok after) :
    Leaves read (findMember name members) (part before) (part after) := by
  rw [← findMember_reverse name members hn]
  exact leaves_lastMember declared part name read hs members before after h

/-- Reading succeeds if every declared member that is there can be read. -/
theorem exists_readMembers (declared : List (Member σ)) (members : List (String × Json))
    (hn : (members.map Prod.fst).Nodup) (before : σ)
    (h : ∀ m ∈ declared, ∀ value, findMember m.name members = some value →
      ∀ s, ∃ s', m.read value s = .ok s') :
    ∃ after, readMembers declared members before = .ok after := by
  induction members generalizing before with
  | nil => exact ⟨before, rfl⟩
  | cons m members ih =>
    obtain ⟨key, value⟩ := m
    obtain ⟨hkey, hrest⟩ := List.nodup_cons.mp hn
    have hlater : ∀ m ∈ declared, ∀ value, findMember m.name members = some value →
        ∀ s, ∃ s', m.read value s = .ok s' := by
      intro m hm later hl
      have hne : ¬ key = m.name := by
        rintro rfl
        rw [findMember_eq_none m.name members hkey] at hl
        cases hl
      exact h m hm later (by rw [findMember, if_neg hne, hl])
    rw [readMembers]
    cases hf : declared.find? (fun m => m.name == key) with
    | none => exact ih hrest before hlater
    | some m =>
      have hname : m.name = key := by simpa using List.find?_some hf
      obtain ⟨mid, hmid⟩ := h m (List.mem_of_find?_eq_some hf) value
        (by rw [findMember, if_pos hname.symm]) before
      simp only [(within_eq_ok (.member key) _ _).mpr hmid, bind, Except.bind]
      exact ih hrest mid hlater

end

end QueryBlocks.Json
