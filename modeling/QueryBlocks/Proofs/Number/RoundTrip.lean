import QueryBlocks.Number.Notation
import QueryBlocks.Proofs.Number.Rounding

/-!
# Numbers survive writing and reading

The positional text of a number is read as the number. The digits that the text shows are
those of a decimal that reads back; leading zeros, trailing zeros and the point only write
that decimal in another way.
-/

set_option autoImplicit false

namespace QueryBlocks

namespace Decimal

structure Clean (digits : List Char) : Prop where
  digit : ∀ c ∈ digits, c.isDigit = true
  head : ∃ first rest, digits = first :: rest ∧ first ≠ '0'

theorem trailing_zeros (digits : List Char) :
    ∃ zeros, digits =
      (digits.reverse.dropWhile (· == '0')).reverse ++ List.replicate zeros '0' := by
  refine ⟨(digits.reverse.takeWhile (· == '0')).length, ?_⟩
  have hz : digits.reverse.takeWhile (· == '0') =
      List.replicate (digits.reverse.takeWhile (· == '0')).length '0' := by
    apply List.eq_replicate_iff.mpr
    refine ⟨rfl, fun c hc => ?_⟩
    exact beq_iff_eq.mp (List.all_eq_true.mp List.all_takeWhile c hc)
  rw [← List.reverse_inj, List.reverse_append, List.reverse_reverse, List.reverse_replicate, ← hz]
  exact (List.takeWhile_append_dropWhile).symm

theorem toDigits_head (n : Nat) (h : n ≠ 0) :
    ∃ first rest, Nat.toDigits 10 n = first :: rest ∧ first ≠ '0' := by
  induction n using Nat.strongRecOn with
  | ind n ih =>
    by_cases hn : n < 10
    · refine ⟨n.digitChar, [], Nat.toDigits_of_lt_base hn, ?_⟩
      intro hz
      have := Nat.toNat_digitChar_sub_48_of_lt_ten hn
      rw [hz] at this
      exact h this.symm
    · obtain ⟨first, rest, hd, hf⟩ := ih (n / 10) (by omega) (by omega)
      refine ⟨first, rest ++ [(n % 10).digitChar], ?_, hf⟩
      rw [Nat.toDigits_of_base_le (by decide) (by omega), hd, List.cons_append]

theorem ofScaled_clean (coefficient : Nat) (exponent : Int) (h : coefficient ≠ 0) :
    Clean (ofScaled coefficient exponent).digits := by
  obtain ⟨first, rest, hd, hf⟩ := toDigits_head coefficient h
  obtain ⟨zeros, hz⟩ := trailing_zeros (Nat.toDigits 10 coefficient)
  refine ⟨fun c hc => Nat.isDigit_of_mem_toDigits (b := 10) (by decide) (by decide)
    (hz ▸ List.mem_append_left _ hc : c ∈ Nat.toDigits 10 coefficient), ?_⟩
  change ∃ first rest, (((Nat.toDigits 10 coefficient).reverse.dropWhile (· == '0')).reverse) =
    first :: rest ∧ first ≠ '0'
  generalize (((Nat.toDigits 10 coefficient).reverse.dropWhile (· == '0')).reverse) = kept at hz
  cases kept with
  | nil =>
    rw [hd] at hz
    cases zeros with
    | zero => cases hz
    | succ n => exact absurd (List.cons.inj hz).1 hf
  | cons c cs =>
    rw [hd] at hz
    exact ⟨c, cs, rfl, (List.cons.inj hz).1 ▸ hf⟩

/-- The digits give the coefficient up to its trailing zeros, which the point makes up for. -/
theorem ofScaled_value (coefficient : Nat) (exponent : Int) :
    ∃ zeros : Nat, Binary64.digitValue (ofScaled coefficient exponent).digits * 10 ^ zeros =
        coefficient ∧
      (ofScaled coefficient exponent).point =
        (ofScaled coefficient exponent).digits.length + zeros + exponent := by
  obtain ⟨zeros, hz⟩ := trailing_zeros (Nat.toDigits 10 coefficient)
  refine ⟨zeros, ?_, ?_⟩
  · have hv := Nat.ofDigitChars_ten_toDigits (n := coefficient)
    rw [hz, Nat.ofDigitChars_append, Nat.ofDigitChars_replicate_zero, Nat.mul_comm] at hv
    exact hv
  · have hl := congrArg List.length hz
    rw [List.length_append, List.length_replicate] at hl
    change ((Nat.toDigits 10 coefficient).length : Int) + exponent = _ + zeros + exponent
    rw [hl]
    rfl

end Decimal

namespace Binary64

theorem takeWhile_digits (digits rest : List Char) (hd : ∀ c ∈ digits, c.isDigit = true)
    (hr : ∀ c ∈ rest.head?, c.isDigit = false) :
    (digits ++ rest).takeWhile Char.isDigit = digits ∧
      (digits ++ rest).dropWhile Char.isDigit = rest := by
  rw [List.takeWhile_append_of_pos hd, List.dropWhile_append_of_pos hd]
  cases rest with
  | nil => simp
  | cons c rest =>
    have hc := hr c rfl
    simp [hc]

theorem readDecimal_whole (negative : Bool) (whole : List Char) (hw : ∀ c ∈ whole, c.isDigit = true)
    (hne : whole ≠ []) :
    readDecimal negative whole = some (ofDecimal negative (digitValue whole) 0) := by
  obtain ⟨ht, hd⟩ := takeWhile_digits whole [] hw (by simp)
  rw [List.append_nil] at ht hd
  simp [readDecimal, ht, hd, hne]

theorem readDecimal_point (negative : Bool) (whole fraction : List Char)
    (hw : ∀ c ∈ whole, c.isDigit = true) (hf : ∀ c ∈ fraction, c.isDigit = true)
    (hne : whole ≠ []) :
    readDecimal negative (whole ++ '.' :: fraction) =
      some (ofDecimal negative (digitValue (whole ++ fraction)) (-fraction.length)) := by
  obtain ⟨ht, hd⟩ := takeWhile_digits whole ('.' :: fraction) hw (by simp)
  obtain ⟨htf, hdf⟩ := takeWhile_digits fraction [] hf (by simp)
  rw [List.append_nil] at htf hdf
  simp [readDecimal, ht, hd, htf, hdf, hne]

theorem digitValue_append (a b : List Char) :
    digitValue (a ++ b) = digitValue a * 10 ^ b.length + digitValue b := by
  have h := @Nat.ofDigitChars_eq_ofDigitChars_zero b (Nat.ofDigitChars 10 a 0)
  rw [← Nat.ofDigitChars_append, Nat.mul_comm] at h
  exact h

theorem digitValue_zeros (count : Nat) : digitValue (List.replicate count '0') = 0 := by
  have h := @Nat.ofDigitChars_replicate_zero 10 0 count
  rw [Nat.mul_zero] at h
  exact h

theorem mem_zeros_isDigit (count : Nat) : ∀ c ∈ List.replicate count '0', c.isDigit = true := by
  intro c hc
  rw [List.eq_of_mem_replicate hc]
  rfl

/-- Every layout of a decimal is read as its digits times the power of ten that its point
stands for. -/
theorem readDecimal_positional (negative : Bool) (d : Decimal) (hc : Decimal.Clean d.digits) :
    ∃ (shift : Nat) (exponent : Int), exponent + shift = d.point - d.digits.length ∧
      readDecimal negative d.positional =
        some (ofDecimal negative (digitValue d.digits * 10 ^ shift) exponent) := by
  obtain ⟨first, rest, hd, -⟩ := hc.head
  have hne : d.digits ≠ [] := by simp [hd]
  unfold Decimal.positional
  split
  · refine ⟨0, d.point - d.digits.length, by simp, ?_⟩
    have hf : ∀ c ∈ List.replicate d.point.natAbs '0' ++ d.digits, c.isDigit = true := by
      intro c h
      rcases List.mem_append.mp h with h | h
      · exact mem_zeros_isDigit _ c h
      · exact hc.digit c h
    have hr := readDecimal_point negative ['0'] _ (by simp) hf (by simp)
    rw [List.singleton_append, ← List.append_assoc, digitValue_append,
      show ['0'] ++ List.replicate d.point.natAbs '0' = List.replicate (d.point.natAbs + 1) '0'
        from rfl, digitValue_zeros] at hr
    rw [hr]
    simp only [List.length_append, List.length_replicate, Nat.zero_mul, Nat.zero_add, Nat.pow_zero,
      Nat.mul_one]
    congr 2
    omega
  · split
    · refine ⟨d.point.toNat - d.digits.length, 0, by omega, ?_⟩
      have hw : ∀ c ∈ d.digits ++ List.replicate (d.point.toNat - d.digits.length) '0',
          c.isDigit = true := by
        intro c h
        rcases List.mem_append.mp h with h | h
        · exact hc.digit c h
        · exact mem_zeros_isDigit _ c h
      rw [readDecimal_whole negative _ hw (by simp [hne]), digitValue_append, digitValue_zeros,
        List.length_replicate, Nat.add_zero]
    · refine ⟨0, d.point - d.digits.length, by simp, ?_⟩
      rw [readDecimal_point negative _ _ (fun c h => hc.digit c (List.mem_of_mem_take h))
        (fun c h => hc.digit c (List.mem_of_mem_drop h)) (by simp [hne]; omega),
        List.take_append_drop, List.length_drop, Nat.pow_zero, Nat.mul_one]
      congr 2
      omega

def StartsWithDigit (text : List Char) : Prop := ∃ c rest, text = c :: rest ∧ c.isDigit = true

theorem positional_startsWithDigit (d : Decimal) (hc : Decimal.Clean d.digits) :
    StartsWithDigit d.positional := by
  obtain ⟨first, rest, hd, -⟩ := hc.head
  have hf : first.isDigit = true := hc.digit first (by simp [hd])
  unfold Decimal.positional
  split
  · exact ⟨'0', _, rfl, rfl⟩
  · split
    · exact ⟨first, _, by rw [hd, List.cons_append], hf⟩
    · obtain ⟨n, hn⟩ : ∃ n, d.point.toNat = n + 1 := ⟨d.point.toNat - 1, by omega⟩
      exact ⟨first, _, by rw [hd, hn, List.take_succ_cons, List.cons_append], hf⟩

theorem toLower_of_isDigit (c : Char) (h : c.isDigit = true) : c.toLower = c := by
  have hn : c.val ≤ '9'.val := (of_decide_eq_true (Bool.and_eq_true_iff.mp h).2)
  have hc : ¬ 'A'.val ≤ c.val := by
    intro ha
    exact absurd (UInt32.le_trans ha hn) (by decide)
  unfold Char.toLower
  rw [dif_neg (fun ha => hc ha.1)]

theorem read_signed (negative : Bool) (text : List Char) (h : StartsWithDigit text) :
    read (signText negative ++ text) = readDecimal negative text := by
  obtain ⟨c, rest, rfl, hc⟩ := h
  have hsign : splitSign (signText negative ++ c :: rest) = (negative, c :: rest) := by
    cases negative with
    | true => rfl
    | false =>
      change splitSign (c :: rest) = _
      unfold splitSign
      split
      · rename_i heq
        cases heq
        exact absurd hc (by decide)
      · rename_i heq
        cases heq
        exact absurd hc (by decide)
      · rfl
  have hword : ∀ first others, first.isDigit = false →
      String.ofList ((c :: rest).map Char.toLower) ≠ String.ofList (first :: others) := by
    intro first others hfirst heq
    have hl := String.ofList_injective heq
    rw [List.map_cons, toLower_of_isDigit c hc] at hl
    rw [(List.cons.inj hl).1, hfirst] at hc
    exact Bool.false_ne_true hc
  have hnan := hword 'n' ['a', 'n'] rfl
  have hinf := hword 'i' ['n', 'f'] rfl
  have hinfinity := hword 'i' ['n', 'f', 'i', 'n', 'i', 't', 'y'] rfl
  unfold read
  rw [hsign]
  change (if String.ofList ((c :: rest).map Char.toLower) = "nan" then _ else _) = _
  rw [if_neg hnan, if_neg (not_or.mpr ⟨hinf, hinfinity⟩)]

theorem onGrid_spec (tie : Tie) (units count : Nat) (point : Nat × Int)
    (h : onGrid tie units count = some point) : decimalUnits point.1 point.2 = units := by
  simp only [onGrid, Bool.and_eq_true] at h
  split at h
  · cases h
    exact (readsBack_iff _ _ _).mp (‹_ ∧ _›).1
  · split at h
    · cases h
      exact (readsBack_iff _ _ _).mp ‹_›
    · cases h

/-- The shortest digits belong to a decimal that reads back. -/
theorem coarsest_spec (tie : Tie) (units : Nat) (hr : Representable units) :
    decimalUnits (coarsest tie units).1 (coarsest tie units).2 = units := by
  generalize hf : exactDecimal units = fallback
  have hfallback : decimalUnits fallback.1 fallback.2 = units := hf ▸ decimalUnits_exact units hr
  rw [coarsest, hf]
  cases hg : (List.range 17).findSome? fun i => onGrid tie units (i + 1) with
  | none => exact hfallback
  | some found =>
    obtain ⟨i, -, hi⟩ := List.exists_of_findSome?_eq_some hg
    exact onGrid_spec tie units _ _ hi

theorem shortest_clean (tie : Tie) (units : Nat) (hr : Representable units) (hu : units ≠ 0) :
    Decimal.Clean (shortest tie units).digits := by
  apply Decimal.ofScaled_clean
  intro hz
  have hd := coarsest_spec tie units hr
  rw [hz, decimalUnits_zero] at hd
  exact hu hd.symm

/-- Digits and point are read as the decimal they come from, whatever the layout. -/
theorem readDecimal_of_value (negative : Bool) (d : Decimal) (hc : Decimal.Clean d.digits)
    (zeros : Nat) (exponent : Int) (hp : d.point = d.digits.length + zeros + exponent)
    (units : Nat) (hr : Representable units) (hu : units ≠ 0)
    (hd : decimalUnits (digitValue d.digits * 10 ^ zeros) exponent = units) :
    readDecimal negative d.positional = some (.finite negative units hr) := by
  obtain ⟨shift, read, he, hread⟩ := readDecimal_positional negative d hc
  rw [hread, ofDecimal_eq negative _ read units hr hu]
  have hs := decimalUnits_shift (digitValue d.digits) shift (read + shift)
  have hz := decimalUnits_shift (digitValue d.digits) zeros (exponent + zeros)
  rw [Int.add_sub_cancel] at hs hz
  rw [hs, show read + shift = exponent + zeros by omega, ← hz, hd]

theorem readDecimal_shortest (negative : Bool) (tie : Tie) (units : Nat) (hr : Representable units)
    (hu : units ≠ 0) :
    readDecimal negative (shortest tie units).positional = some (.finite negative units hr) := by
  obtain ⟨zeros, hv, hp⟩ := Decimal.ofScaled_value (coarsest tie units).1 (coarsest tie units).2
  apply readDecimal_of_value negative _ (shortest_clean tie units hr hu) zeros _ hp units hr hu
  rw [shortest, hv, coarsest_spec tie units hr]

theorem ofUnits_of_representable (negative : Bool) (units : Nat) (hr : Representable units) :
    ofUnits negative units = .finite negative units hr := dif_pos hr

theorem read_text (x : Binary64) : read x.text = some x := by
  match x with
  | .nan => decide
  | .infinite negative => cases negative <;> decide
  | .finite negative units hr =>
    change read (signText negative ++
      if units = 0 then ['0'] else (shortest .up units).positional) = _
    by_cases hu : units = 0
    · subst hu
      rw [if_pos rfl, read_signed negative ['0'] ⟨'0', [], rfl, rfl⟩,
        readDecimal_whole negative ['0'] (by simp) (by simp), ofDecimal,
        if_pos (by decide), zero, ofUnits_of_representable negative 0 hr]
    · rw [if_neg hu,
        read_signed negative _ (positional_startsWithDigit _ (shortest_clean .up units hr hu)),
        readDecimal_shortest negative .up units hr hu]

/-- The text of a number is read back as the number. -/
theorem ofString?_toString (x : Binary64) : ofString? x.toString = some x := by
  rw [ofString?, toString, String.toList_ofList, read_text]

end Binary64

end QueryBlocks
