/-!
# Catalogs

Entries under distinct names, in the order in which they were listed.
-/

set_option autoImplicit false

namespace QueryBlocks

def lookup {α : Type} (name : String) : List (String × α) → Option α
  | [] => none
  | (key, value) :: rest => if key = name then some value else lookup name rest

structure Catalog (α : Type) where
  entries : List (String × α)
  distinct : (entries.map Prod.fst).Nodup

namespace Catalog

variable {α : Type}

def empty : Catalog α := { entries := [], distinct := by simp }

def find? (catalog : Catalog α) (name : String) : Option α := lookup name catalog.entries

def names (catalog : Catalog α) : List String := catalog.entries.map Prod.fst

def size (catalog : Catalog α) : Nat := catalog.entries.length

def add? (catalog : Catalog α) (name : String) (value : α) : Option (Catalog α) :=
  if h : name ∈ catalog.names then none
  else some
    { entries := catalog.entries ++ [(name, value)]
      distinct := by
        rw [List.map_append, List.nodup_append]
        refine ⟨catalog.distinct, by simp, ?_⟩
        intro a ha b hb hab
        subst hab
        simp only [List.map_cons, List.map_nil, List.mem_singleton] at hb
        exact h (hb ▸ ha) }

end Catalog

end QueryBlocks
