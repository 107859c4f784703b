/-!
# The order of texts

Texts are ordered character by character, by code points; a text follows its own beginnings.
-/

set_option autoImplicit false

namespace QueryBlocks.Text

def charsPrecede : List Char → List Char → Bool
  | _, [] => false
  | [], _ :: _ => true
  | c :: s, d :: t => c.toNat < d.toNat || (c.toNat == d.toNat && charsPrecede s t)

def precedes (a b : String) : Bool := charsPrecede a.toList b.toList

theorem charsPrecede_self (s : List Char) : charsPrecede s s = false := by
  induction s with
  | nil => rfl
  | cons c s ih => simp [charsPrecede, ih]

theorem charsPrecede_trans {s t u : List Char} (hst : charsPrecede s t = true)
    (htu : charsPrecede t u = true) : charsPrecede s u = true := by
  induction s generalizing t u with
  | nil =>
    cases u with
    | nil => cases t <;> simp [charsPrecede] at htu
    | cons => rfl
  | cons c s ih =>
    cases t with
    | nil => simp [charsPrecede] at hst
    | cons d t =>
      cases u with
      | nil => simp [charsPrecede] at htu
      | cons e u =>
        simp only [charsPrecede, Bool.or_eq_true, Bool.and_eq_true, decide_eq_true_eq,
          beq_iff_eq] at hst htu ⊢
        rcases hst with hst | ⟨hst, hs⟩ <;> rcases htu with htu | ⟨htu, ht⟩
        · exact Or.inl (by omega)
        · exact Or.inl (by omega)
        · exact Or.inl (by omega)
        · exact Or.inr ⟨by omega, ih hs ht⟩

/-- Of two texts neither of which precedes the other, each is the other. -/
theorem eq_of_not_charsPrecede {s t : List Char} (hst : charsPrecede s t = false)
    (hts : charsPrecede t s = false) : s = t := by
  induction s generalizing t with
  | nil =>
    cases t with
    | nil => rfl
    | cons => simp [charsPrecede] at hst
  | cons c s ih =>
    cases t with
    | nil => simp [charsPrecede] at hts
    | cons d t =>
      simp only [charsPrecede, Bool.or_eq_false_iff, Bool.and_eq_false_iff,
        decide_eq_false_iff_not, beq_eq_false_iff_ne] at hst hts
      have hcd : c.toNat = d.toNat := by omega
      have hs := hst.2.resolve_left (fun h => h hcd)
      have ht := hts.2.resolve_left (fun h => h hcd.symm)
      rw [Char.toNat_inj.1 hcd, ih hs ht]

theorem precedes_self (a : String) : precedes a a = false := charsPrecede_self a.toList

theorem precedes_trans {a b c : String} (hab : precedes a b = true) (hbc : precedes b c = true) :
    precedes a c = true :=
  charsPrecede_trans hab hbc

theorem ne_of_precedes {a b : String} (h : precedes a b = true) : a ≠ b := by
  rintro rfl
  rw [precedes_self] at h
  cases h

theorem precedes_asymm {a b : String} (h : precedes a b = true) : precedes b a = false := by
  cases hb : precedes b a with
  | false => rfl
  | true => exact absurd rfl (ne_of_precedes (precedes_trans h hb))

theorem eq_of_not_precedes {a b : String} (hab : precedes a b = false)
    (hba : precedes b a = false) : a = b :=
  String.toList_inj.1 (eq_of_not_charsPrecede hab hba)

end QueryBlocks.Text
