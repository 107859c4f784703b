import QueryBlocks.Text.Unsigned

/-!
# Decimal digits read back

The digits of a number are read as the number as long as it fits a word, and not at all when
it does not.
-/

set_option autoImplicit false

namespace QueryBlocks.Text

theorem le_ofDigitChars (digits : List Char) (value : Nat) :
    value ≤ Nat.ofDigitChars 10 digits value := by
  rw [Nat.ofDigitChars_eq_ofDigitChars_zero]
  exact Nat.le_trans (Nat.le_mul_of_pos_left _ (Nat.pow_pos (by decide))) (Nat.le_add_right _ _)

theorem foldl_appendDigit_none (digits : List Char) : digits.foldl appendDigit none = none := by
  induction digits with
  | nil => rfl
  | cons c digits ih => exact ih

theorem foldl_appendDigit (digits : List Char) (value : Nat)
    (hd : ∀ c ∈ digits, c.isDigit = true) (hv : value ≤ maxUnsigned) :
    digits.foldl appendDigit (some value) =
      if Nat.ofDigitChars 10 digits value ≤ maxUnsigned then
        some (Nat.ofDigitChars 10 digits value)
      else none := by
  induction digits generalizing value with
  | nil => simp [hv]
  | cons c digits ih =>
    have hc : c.isDigit = true := hd c List.mem_cons_self
    have ho : ∀ d ∈ digits, d.isDigit = true := fun d h => hd d (List.mem_cons_of_mem _ h)
    rw [List.foldl_cons, Nat.ofDigitChars_cons]
    by_cases hm : 10 * value + (c.toNat - '0'.toNat) ≤ maxUnsigned
    · rw [← ih _ ho hm]
      congr 1
      simp [appendDigit, hc]
      exact hm
    · have hs : appendDigit (some value) c = none := by
        simp [appendDigit, hc]
        exact Nat.lt_of_not_le hm
      have hle := le_ofDigitChars digits (10 * value + (c.toNat - '0'.toNat))
      rw [hs, foldl_appendDigit_none, if_neg (by omega)]

theorem readUnsigned_toDigits (n : Nat) :
    readUnsigned (Nat.toDigits 10 n) = if n ≤ maxUnsigned then some n else none := by
  have hd : ∀ c ∈ Nat.toDigits 10 n, c.isDigit = true := fun c hc =>
    Nat.isDigit_of_mem_toDigits (by decide) (by decide) hc
  have hf := foldl_appendDigit (Nat.toDigits 10 n) 0 hd (Nat.zero_le _)
  rw [Nat.ofDigitChars_ten_toDigits] at hf
  cases h : Nat.toDigits 10 n with
  | nil => exact absurd h Nat.toDigits_ne_nil
  | cons c rest =>
    rw [h] at hd hf
    have hp : c ≠ '+' := by
      rintro rfl
      exact absurd (hd '+' List.mem_cons_self) (by decide)
    rw [← hf, readUnsigned, readDigits]
    · intro heq
      cases heq
    · intro rest' heq
      exact hp (List.cons.inj heq).1

theorem appendDigit_le (value : Option Nat) (digit : Char) (n : Nat)
    (h : appendDigit value digit = some n) : n ≤ maxUnsigned := by
  cases value with
  | none => cases h
  | some m =>
    simp only [appendDigit, Option.bind_eq_bind, Option.bind_some] at h
    split at h
    · split at h
      · cases h
        assumption
      · cases h
    · cases h

theorem foldl_appendDigit_le (digits : List Char) (value : Option Nat)
    (hv : ∀ n, value = some n → n ≤ maxUnsigned) (n : Nat)
    (h : digits.foldl appendDigit value = some n) : n ≤ maxUnsigned := by
  induction digits generalizing value with
  | nil => exact hv n h
  | cons c digits ih => exact ih (appendDigit value c) (appendDigit_le value c) h

/-- However it is written, a number that is read fits a word. -/
theorem readUnsigned_le (cs : List Char) (n : Nat) (h : readUnsigned cs = some n) :
    n ≤ maxUnsigned := by
  have hd : ∀ digits, readDigits digits = some n → n ≤ maxUnsigned := by
    intro digits hd
    cases digits with
    | nil => cases hd
    | cons c digits =>
      refine foldl_appendDigit_le (c :: digits) (some 0) ?_ n hd
      intro m hm
      cases hm
      exact Nat.zero_le _
  unfold readUnsigned at h
  split at h
  · exact hd _ h
  · exact hd _ h

end QueryBlocks.Text
