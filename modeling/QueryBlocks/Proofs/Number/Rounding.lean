import Mathlib.Tactic.Positivity
import Mathlib.Tactic.Ring
import QueryBlocks.Number.Shortest

/-!
# Rounding depends on the value alone

The nearest magnitude to a quotient is the same for every way to write the quotient. A
representable magnitude is its own rounding, a quotient below a quarter of a unit rounds to
zero, and one at least as large as the limit never rounds into the range.
-/

set_option autoImplicit false

namespace QueryBlocks.Binary64

theorem unit_pos : 0 < unit := by decide +kernel

theorem spacing_pos (units : Nat) : 0 < spacing units := Nat.pow_pos (by decide)

theorem nearestUnits_scale (factor numerator denominator : Nat) (hf : 0 < factor) :
    nearestUnits (factor * numerator) (factor * denominator) =
      nearestUnits numerator denominator := by
  have hq : factor * numerator / (factor * denominator) = numerator / denominator :=
    Nat.mul_div_mul_left _ _ hf
  simp only [nearestUnits, hq, Nat.mul_assoc factor, Nat.mul_div_mul_left _ _ hf,
    Nat.mul_mod_mul_left]
  generalize denominator * spacing (numerator / denominator) = step
  have hgt : 2 * (factor * (numerator % step)) > factor * step ↔ 2 * (numerator % step) > step := by
    rw [Nat.mul_left_comm]
    exact Nat.mul_lt_mul_left hf
  have heq : 2 * (factor * (numerator % step)) = factor * step ↔
      2 * (numerator % step) = step := by
    rw [Nat.mul_left_comm]
    exact Nat.mul_right_inj (Nat.ne_of_gt hf)
  simp only [hgt, heq]

theorem nearestUnits_zero (denominator : Nat) (hd : 0 < denominator) :
    nearestUnits 0 denominator = 0 := by
  have hs := Nat.mul_pos hd (spacing_pos 0)
  simp only [nearestUnits, Nat.zero_div, Nat.zero_mod, Nat.mul_zero]
  rw [if_neg (by omega), Nat.zero_mul]

theorem nearestUnits_of_representable (units : Nat) (h : Representable units) :
    nearestUnits units 1 = units := by
  have hs := spacing_pos units
  have hm : units % spacing units = 0 := h.1
  simp only [nearestUnits, Nat.div_one, Nat.one_mul, hm, Nat.mul_zero]
  rw [if_neg (by omega)]
  exact Nat.div_mul_cancel (Nat.dvd_of_mod_eq_zero hm)

theorem nearestUnits_of_small (numerator denominator : Nat)
    (h : 2 * numerator < denominator) : nearestUnits numerator denominator = 0 := by
  have hq : numerator / denominator = 0 := Nat.div_eq_of_lt (by omega)
  have hs : spacing 0 = 1 := by decide
  simp only [nearestUnits, hq, hs, Nat.mul_one,
    Nat.mod_eq_of_lt (show numerator < denominator by omega)]
  rw [if_neg (by omega)]

/-- The leading power of two of a magnitude is a multiple of the spacing around it. -/
theorem two_pow_log2_le (units : Nat) (h : units ≠ 0) :
    2 ^ units.log2 ≤ units / spacing units * spacing units := by
  have hdvd : spacing units ∣ 2 ^ units.log2 := Nat.pow_dvd_pow 2 (Nat.sub_le _ _)
  have hle : 2 ^ units.log2 ≤ units := Nat.log2_self_le h
  calc 2 ^ units.log2 = 2 ^ units.log2 / spacing units * spacing units :=
        (Nat.div_mul_cancel hdvd).symm
    _ ≤ units / spacing units * spacing units :=
        Nat.mul_le_mul_right _ (Nat.div_le_div_right hle)

theorem le_nearestUnits (numerator denominator : Nat) :
    numerator / denominator / spacing (numerator / denominator) *
      spacing (numerator / denominator) ≤ nearestUnits numerator denominator := by
  simp only [nearestUnits]
  apply Nat.mul_le_mul_right
  rw [Nat.div_div_eq_div_mul]
  split
  · exact Nat.le_succ _
  · exact Nat.le_refl _

theorem two_pow_le_nearestUnits (exponent numerator denominator : Nat)
    (h : 2 ^ exponent ≤ numerator / denominator) :
    2 ^ exponent ≤ nearestUnits numerator denominator := by
  have hpos : 0 < 2 ^ exponent := Nat.pow_pos (by decide)
  have hlog : exponent ≤ (numerator / denominator).log2 := (Nat.le_log2 (by omega)).mpr h
  calc 2 ^ exponent ≤ 2 ^ (numerator / denominator).log2 := Nat.pow_le_pow_right (by decide) hlog
    _ ≤ _ := two_pow_log2_le _ (by omega)
    _ ≤ _ := le_nearestUnits _ _

def decimalUnits (coefficient : Nat) (exponent : Int) : Nat :=
  if exponent < 0 then nearestUnits (coefficient * unit) (10 ^ exponent.natAbs)
  else nearestUnits (coefficient * 10 ^ exponent.natAbs * unit) 1

theorem readsBack_iff (units coefficient : Nat) (exponent : Int) :
    readsBack units coefficient exponent = true ↔ decimalUnits coefficient exponent = units := by
  unfold readsBack decimalUnits
  split
  · exact beq_iff_eq
  · exact beq_iff_eq

/-- The quotient of a decimal over any power of ten that clears its exponent. -/
theorem decimalUnits_eq (coefficient places : Nat) (exponent : Int) (h : 0 ≤ exponent + places) :
    decimalUnits coefficient exponent =
      nearestUnits (coefficient * 10 ^ (exponent + places).toNat * unit) (10 ^ places) := by
  unfold decimalUnits
  generalize unit = u
  split
  · have hp : (exponent + places).toNat + exponent.natAbs = places := by omega
    rw [← nearestUnits_scale (10 ^ (exponent + places).toNat) _ _ (by positivity),
      ← Nat.pow_add, hp, ← Nat.mul_assoc, Nat.mul_comm coefficient]
  · have hp : (exponent + places).toNat = places + exponent.natAbs := by omega
    rw [← nearestUnits_scale (10 ^ places) _ 1 (by positivity), hp, Nat.mul_one, Nat.pow_add]
    congr 1
    ring

/-- A decimal may be written with any exponent below its own. -/
theorem decimalUnits_shift (coefficient places : Nat) (exponent : Int) :
    decimalUnits (coefficient * 10 ^ places) (exponent - places) =
      decimalUnits coefficient exponent := by
  have hs : (exponent + (exponent.natAbs + places : Nat)).toNat =
      places + (exponent - places + (exponent.natAbs + places : Nat)).toNat := by omega
  rw [decimalUnits_eq _ (exponent.natAbs + places) (exponent - places) (by omega),
    decimalUnits_eq coefficient (exponent.natAbs + places) exponent (by omega), hs,
    Nat.pow_add 10 places, Nat.mul_assoc coefficient]

theorem decimalUnits_zero (exponent : Int) : decimalUnits 0 exponent = 0 := by
  rw [decimalUnits_eq 0 exponent.natAbs exponent (by omega), Nat.zero_mul, Nat.zero_mul]
  exact nearestUnits_zero _ (by positivity)

theorem decimalUnits_neg (coefficient places : Nat) :
    decimalUnits coefficient (-places) = nearestUnits (coefficient * unit) (10 ^ places) := by
  rw [decimalUnits_eq coefficient places _ (by omega)]
  simp

/-- A whole number of units has a finite decimal: a factor of five for each factor of two. -/
theorem decimalUnits_fives (units places : Nat) (hu : unit = Nat.pow 2 places)
    (h : Representable units) : decimalUnits (units * Nat.pow 5 places) (-places) = units := by
  have hd : units * Nat.pow 5 places * unit = 10 ^ places * units := by
    rw [hu, Nat.pow_eq, Nat.pow_eq, Nat.mul_assoc, ← Nat.mul_pow, Nat.mul_comm]
  calc decimalUnits (units * Nat.pow 5 places) (-places)
      = nearestUnits (units * Nat.pow 5 places * unit) (10 ^ places) := decimalUnits_neg _ _
    _ = nearestUnits (10 ^ places * units) (10 ^ places * 1) := by rw [hd, Nat.mul_one]
    _ = nearestUnits units 1 := nearestUnits_scale _ _ _ (Nat.pow_pos (by decide))
    _ = units := nearestUnits_of_representable units h

theorem decimalUnits_exact (units : Nat) (h : Representable units) :
    decimalUnits (exactDecimal units).1 (exactDecimal units).2 = units :=
  decimalUnits_fives units 1074 rfl h

theorem pow_digits_le (n : Nat) (h : n ≠ 0) : 10 ^ ((Nat.toDigits 10 n).length - 1) ≤ n := by
  by_cases h1 : (Nat.toDigits 10 n).length = 1
  · simp [h1]
    omega
  · have hpos := Nat.length_toDigits_pos (b := 10) (n := n)
    by_contra hlt
    have := (Nat.length_toDigits_le_iff (b := 10) (by decide)
      (show 0 < (Nat.toDigits 10 n).length - 1 by omega)).mpr (Nat.lt_of_not_le hlt)
    omega

theorem lt_pow_digits (n : Nat) : n < 10 ^ (Nat.toDigits 10 n).length :=
  (Nat.length_toDigits_le_iff (by decide) Nat.length_toDigits_pos).mp (Nat.le_refl _)

theorem limit_le_pow_mul_unit : limit ≤ Nat.pow 10 310 * unit := by decide +kernel

theorem two_mul_unit_le_pow : 2 * unit ≤ Nat.pow 10 331 := by decide +kernel

theorem limit_le_decimalUnits (coefficient places : Nat) (exponent : Int)
    (hc : 10 ^ places ≤ coefficient) (hp : 310 ≤ places + exponent) :
    limit ≤ decimalUnits coefficient exponent := by
  have hn : 310 + exponent.natAbs ≤ places + (exponent + exponent.natAbs).toNat := by omega
  rw [decimalUnits_eq coefficient exponent.natAbs exponent (by omega)]
  apply two_pow_le_nearestUnits 2098
  apply (Nat.le_div_iff_mul_le (by positivity)).mpr
  calc limit * 10 ^ exponent.natAbs
      ≤ Nat.pow 10 310 * unit * 10 ^ exponent.natAbs :=
        Nat.mul_le_mul_right _ limit_le_pow_mul_unit
    _ = 10 ^ (310 + exponent.natAbs) * unit := by
        rw [Nat.pow_add, Nat.mul_right_comm, Nat.pow_eq]
    _ ≤ 10 ^ (places + (exponent + exponent.natAbs).toNat) * unit :=
        Nat.mul_le_mul_right _ (Nat.pow_le_pow_right (by decide) hn)
    _ ≤ coefficient * 10 ^ (exponent + exponent.natAbs).toNat * unit := by
        rw [Nat.pow_add]
        exact Nat.mul_le_mul_right _ (Nat.mul_le_mul_right _ hc)

theorem decimalUnits_of_small (coefficient places : Nat) (exponent : Int)
    (hc : coefficient < 10 ^ places) (hp : places + exponent < -330) :
    decimalUnits coefficient exponent = 0 := by
  have hn : 331 + places ≤ exponent.natAbs := by omega
  rw [decimalUnits_eq coefficient exponent.natAbs exponent (by omega),
    show (exponent + exponent.natAbs).toNat = 0 by omega, Nat.pow_zero, Nat.mul_one]
  apply nearestUnits_of_small
  have hu := unit_pos
  calc 2 * (coefficient * unit) = coefficient * (2 * unit) := Nat.mul_left_comm _ _ _
    _ < 10 ^ places * (2 * unit) := Nat.mul_lt_mul_of_pos_right hc (by omega)
    _ ≤ 10 ^ places * Nat.pow 10 331 := Nat.mul_le_mul_left _ two_mul_unit_le_pow
    _ = 10 ^ (331 + places) := by rw [Nat.pow_add, Nat.mul_comm, Nat.pow_eq]
    _ ≤ 10 ^ exponent.natAbs := Nat.pow_le_pow_right (by decide) hn

/-- A decimal that is nearest to a representable magnitude other than zero is read as it:
neither of the two cuts on the exponent applies. -/
theorem ofDecimal_eq (negative : Bool) (coefficient : Nat) (exponent : Int) (units : Nat)
    (hr : Representable units) (hu : units ≠ 0) (h : decimalUnits coefficient exponent = units) :
    ofDecimal negative coefficient exponent = .finite negative units hr := by
  have hc : coefficient ≠ 0 := by
    rintro rfl
    exact hu (h.symm.trans (decimalUnits_zero exponent))
  have hlt : decimalUnits coefficient exponent < limit := h ▸ hr.2
  have hpos := Nat.length_toDigits_pos (b := 10) (n := coefficient)
  have hhigh : ¬ (Nat.toDigits 10 coefficient).length + exponent > 310 := fun hp =>
    Nat.not_lt_of_le (limit_le_decimalUnits _ _ _ (pow_digits_le coefficient hc) (by omega)) hlt
  have hlow : ¬ (Nat.toDigits 10 coefficient).length + exponent < -330 := fun hp =>
    hu (h.symm.trans (decimalUnits_of_small _ _ _ (lt_pow_digits coefficient) hp))
  have hnear :
      ofUnits negative (decimalUnits coefficient exponent) = .finite negative units hr := by
    rw [h, ofUnits, dif_pos hr]
  simp only [ofDecimal, hc, hhigh, hlow, if_false]
  unfold decimalUnits at hnear
  split
  · rw [if_pos ‹_›] at hnear
    exact hnear
  · rw [if_neg ‹_›] at hnear
    exact hnear

end QueryBlocks.Binary64
