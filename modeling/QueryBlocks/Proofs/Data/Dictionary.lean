import QueryBlocks.Data.Dictionary

/-!
# The order of a dictionary

The entries of a dictionary that is built name by name are in ascending order of their names, so
no name is there twice and looking up a name finds the entry of that name.
-/

set_option autoImplicit false

namespace QueryBlocks

namespace Dictionary

variable {α : Type}

def Ascending (entries : List (String × α)) : Prop :=
  entries.Pairwise fun a b => Text.precedes a.1 b.1 = true

theorem nodup_of_ascending (entries : List (String × α)) (h : Ascending entries) :
    (entries.map Prod.fst).Nodup := by
  rw [List.Nodup, List.pairwise_map]
  exact h.imp Text.ne_of_precedes

theorem mem_insertEntry (name : String) (value : α) (entries : List (String × α))
    (entry : String × α) (h : entry ∈ insertEntry name value entries) :
    entry = (name, value) ∨ entry ∈ entries := by
  induction entries with
  | nil => exact .inl (List.mem_singleton.mp h)
  | cons first rest ih =>
    obtain ⟨key, old⟩ := first
    rw [insertEntry] at h
    split at h
    · exact (List.mem_cons.mp h).imp_right (List.mem_cons_of_mem _)
    · split at h
      · exact List.mem_cons.mp h
      · rcases List.mem_cons.mp h with h | h
        · exact .inr (h ▸ List.mem_cons_self)
        · exact (ih h).imp_right (List.mem_cons_of_mem _)

theorem ascending_insertEntry (name : String) (value : α) (entries : List (String × α))
    (h : Ascending entries) : Ascending (insertEntry name value entries) := by
  induction entries with
  | nil => exact List.pairwise_singleton _ _
  | cons first rest ih =>
    obtain ⟨key, old⟩ := first
    obtain ⟨hfirst, hrest⟩ := List.pairwise_cons.mp h
    rw [insertEntry]
    split
    · next hk =>
      subst hk
      exact List.pairwise_cons.mpr ⟨hfirst, hrest⟩
    · next hk =>
      split
      · next hn =>
        refine List.pairwise_cons.mpr ⟨fun entry he => ?_, h⟩
        rcases List.mem_cons.mp he with rfl | he
        · exact hn
        · exact Text.precedes_trans hn (hfirst entry he)
      · next hn =>
        -- the name is none of the two it could be before or at, so it goes in further down
        have hkn : Text.precedes key name = true := by
          cases hc : Text.precedes key name with
          | true => rfl
          | false => exact absurd (Text.eq_of_not_precedes hc (by simpa using hn)) hk
        refine List.pairwise_cons.mpr ⟨fun entry he => ?_, ih hrest⟩
        rcases mem_insertEntry name value rest entry he with rfl | he
        · exact hkn
        · exact hfirst entry he

theorem lookup_eq_some_iff (entries : List (String × α)) (h : Ascending entries) (name : String)
    (value : α) : lookup name entries = some value ↔ (name, value) ∈ entries := by
  induction entries with
  | nil => simp [lookup]
  | cons first rest ih =>
    obtain ⟨key, old⟩ := first
    obtain ⟨hfirst, hrest⟩ := List.pairwise_cons.mp h
    rw [lookup, List.mem_cons, Prod.mk.injEq]
    split
    · next hk =>
      subst hk
      -- the name does not come again further down
      have hfresh : (key, value) ∉ rest := fun hm => Text.ne_of_precedes (hfirst _ hm) rfl
      simp [hfresh, eq_comm]
    · next hk => simp [ih hrest, Ne.symm hk]

/-- An entry stands before the entries of the other names, up to their order. -/
theorem perm_cons_others (entries : List (String × α)) (h : Ascending entries) (name : String)
    (value : α) (hm : (name, value) ∈ entries) :
    entries.Perm ((name, value) :: entries.filter fun entry => entry.1 ≠ name) := by
  induction entries with
  | nil => exact nomatch hm
  | cons first rest ih =>
    obtain ⟨hfirst, hrest⟩ := List.pairwise_cons.mp h
    rcases List.mem_cons.mp hm with rfl | hm
    · have hothers : rest.filter (fun entry => entry.1 ≠ name) = rest := by
        refine List.filter_eq_self.mpr fun entry he => ?_
        simpa using (Text.ne_of_precedes (hfirst entry he)).symm
      rw [List.filter_cons_of_neg (by simp), hothers]
    · have hne : first.1 ≠ name := Text.ne_of_precedes (hfirst _ hm)
      rw [List.filter_cons_of_pos (by simpa using hne)]
      exact ((ih hrest hm).cons first).trans (.swap _ _ _)

def Ordered (dictionary : Dictionary α) : Prop := Ascending dictionary.entries

theorem ordered_empty : (empty : Dictionary α).Ordered := List.Pairwise.nil

theorem Ordered.insert {dictionary : Dictionary α} (h : dictionary.Ordered) (name : String)
    (value : α) : (dictionary.insert name value).Ordered :=
  ascending_insertEntry name value dictionary.entries h

theorem Ordered.find?_iff {dictionary : Dictionary α} (h : dictionary.Ordered) (name : String)
    (value : α) : dictionary.find? name = some value ↔ (name, value) ∈ dictionary.entries :=
  lookup_eq_some_iff dictionary.entries h name value

structure All (p : α → Prop) (dictionary : Dictionary α) : Prop where
  ordered : dictionary.Ordered
  values : ∀ entry ∈ dictionary.entries, p entry.2

theorem all_empty (p : α → Prop) : (empty : Dictionary α).All p where
  ordered := ordered_empty
  values _ he := nomatch he

theorem All.insert {p : α → Prop} {dictionary : Dictionary α} (h : dictionary.All p)
    (name : String) (value : α) (hp : p value) : (dictionary.insert name value).All p where
  ordered := h.ordered.insert name value
  values entry he := by
    rcases mem_insertEntry name value dictionary.entries entry he with rfl | he
    · exact hp
    · exact h.values entry he

theorem all_ofList (p : α → Prop) (entries : List (String × α)) (hp : ∀ entry ∈ entries, p entry.2) :
    (ofList entries).All p := by
  suffices hall : ∀ dictionary : Dictionary α, dictionary.All p →
      (entries.foldl (fun dictionary entry => dictionary.insert entry.1 entry.2) dictionary).All p
    from hall empty (all_empty p)
  induction entries with
  | nil => exact fun _ h => h
  | cons entry rest ih =>
    obtain ⟨hentry, hrest⟩ := List.forall_mem_cons.mp hp
    exact fun dictionary h => ih hrest _ (h.insert entry.1 entry.2 hentry)

end Dictionary

end QueryBlocks
