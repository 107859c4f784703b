import QueryBlocks.Data.Catalog
import QueryBlocks.Text.Order

/-!
# Dictionaries

Values under names, kept in the order of the names.
-/

set_option autoImplicit false

namespace QueryBlocks

structure Dictionary (α : Type) where
  entries : List (String × α)

namespace Dictionary

variable {α : Type}

def empty : Dictionary α := { entries := [] }

def find? (dictionary : Dictionary α) (name : String) : Option α := lookup name dictionary.entries

def contains (dictionary : Dictionary α) (name : String) : Bool :=
  (dictionary.find? name).isSome

def names (dictionary : Dictionary α) : List String := dictionary.entries.map Prod.fst

def insertEntry (name : String) (value : α) : List (String × α) → List (String × α)
  | [] => [(name, value)]
  | (key, old) :: rest =>
    if key = name then (name, value) :: rest
    else if Text.precedes name key then (name, value) :: (key, old) :: rest
    else (key, old) :: insertEntry name value rest

def insert (dictionary : Dictionary α) (name : String) (value : α) : Dictionary α :=
  { entries := insertEntry name value dictionary.entries }

def erase (dictionary : Dictionary α) (name : String) : Dictionary α :=
  { entries := dictionary.entries.filter fun entry => entry.1 ≠ name }

def ofList (entries : List (String × α)) : Dictionary α :=
  entries.foldl (fun dictionary entry => dictionary.insert entry.1 entry.2) empty

theorem lookup_insertEntry (name other : String) (value : α) (entries : List (String × α)) :
    lookup other (insertEntry name value entries) =
      if other = name then some value else lookup other entries := by
  induction entries with
  | nil => simp only [insertEntry, lookup, eq_comm]
  | cons entry rest ih =>
    obtain ⟨key, old⟩ := entry
    by_cases hk : key = name
    · subst hk
      by_cases h : key = other
      · simp [insertEntry, lookup, h]
      · simp [insertEntry, lookup, h, Ne.symm h]
    · by_cases hl : Text.precedes name key
      · simp only [insertEntry, hk, hl, if_false, if_true, lookup]
        by_cases h : name = other
        · simp [h]
        · simp [h, Ne.symm h]
      · by_cases ho : key = other
        · subst ho
          simp [insertEntry, lookup, hk, hl]
        · simp [insertEntry, lookup, hk, hl, ho, ih]

theorem find?_insert (dictionary : Dictionary α) (name other : String) (value : α) :
    (dictionary.insert name value).find? other =
      if other = name then some value else dictionary.find? other :=
  lookup_insertEntry name other value dictionary.entries

/-- Of two names each goes in at its own place, whichever is put in first. -/
theorem insertEntry_comm (a b : String) (x y : α) (entries : List (String × α))
    (h : Text.precedes a b = true) :
    insertEntry a x (insertEntry b y entries) = insertEntry b y (insertEntry a x entries) := by
  have hab : ¬ a = b := Text.ne_of_precedes h
  have hba : ¬ b = a := fun e => hab e.symm
  have hn := Text.precedes_asymm h
  induction entries with
  | nil => simp [insertEntry, hab, hba, h, hn]
  | cons entry rest ih =>
    obtain ⟨key, old⟩ := entry
    by_cases hka : key = a
    · subst hka
      simp [insertEntry, hab, hn]
    · by_cases hak : Text.precedes a key = true
      · by_cases hkb : key = b
        · subst hkb
          simp [insertEntry, hka, hak, hab, hn]
        · by_cases hbk : Text.precedes b key = true
          · simp [insertEntry, hka, hkb, hak, hbk, hab, hba, h, hn]
          · simp [insertEntry, hka, hkb, hak, hbk, hab, hn]
      · -- the key stands before `a` and so before `b`: both go in further down
        have hkey : Text.precedes key a = true := by
          cases hk : Text.precedes key a with
          | true => rfl
          | false => exact absurd (Text.eq_of_not_precedes hk (by simpa using hak)) hka
        have hkeyb := Text.precedes_trans hkey h
        have hkb : ¬ key = b := Text.ne_of_precedes hkeyb
        have hbk := Text.precedes_asymm hkeyb
        simp [insertEntry, hka, hkb, hak, hbk, ih]

/-- Values under different names go in in any order. -/
theorem insert_comm (dictionary : Dictionary α) (a b : String) (x y : α) (h : a ≠ b) :
    (dictionary.insert a x).insert b y = (dictionary.insert b y).insert a x := by
  cases hab : Text.precedes a b with
  | true => simp only [insert, insertEntry_comm a b x y dictionary.entries hab]
  | false =>
    cases hba : Text.precedes b a with
    | true => simp only [insert, insertEntry_comm b a y x dictionary.entries hba]
    | false => exact absurd (Text.eq_of_not_precedes hab hba) h

end Dictionary

end QueryBlocks
