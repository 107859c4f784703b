import QueryBlocks.Proofs.Number.RoundTrip

/-!
# The layout of written numbers

A finite number is written as an optional sign, a whole number without leading zeros and,
where a fraction is left, a point and the digits of the fraction.
-/

set_option autoImplicit false

namespace QueryBlocks

namespace Decimal

structure Whole (digits : List Char) : Prop where
  digit : ∀ c ∈ digits, c.isDigit = true
  head : digits = ['0'] ∨ ∃ first rest, digits = first :: rest ∧ first ≠ '0'

inductive Layout : List Char → Prop where
  | whole (digits : List Char) (hw : Whole digits) : Layout digits
  | point (digits fraction : List Char) (hw : Whole digits)
      (hf : ∀ c ∈ fraction, c.isDigit = true) (hne : fraction ≠ []) :
      Layout (digits ++ '.' :: fraction)

theorem whole_zero : Whole ['0'] := ⟨by simp, Or.inl rfl⟩

theorem positional_layout (d : Decimal) (hc : Clean d.digits) : Layout d.positional := by
  obtain ⟨first, rest, hd, hne⟩ := hc.head
  unfold positional
  split
  · refine Layout.point ['0'] _ whole_zero ?_ ?_
    · intro c hm
      rcases List.mem_append.mp hm with h | h
      · exact Binary64.mem_zeros_isDigit _ c h
      · exact hc.digit c h
    · simp [hd]
  · split
    · refine Layout.whole _ ⟨?_, Or.inr ⟨first, _, by rw [hd, List.cons_append], hne⟩⟩
      intro c hm
      rcases List.mem_append.mp hm with h | h
      · exact hc.digit c h
      · exact Binary64.mem_zeros_isDigit _ c h
    · obtain ⟨n, hn⟩ : ∃ n, d.point.toNat = n + 1 := ⟨d.point.toNat - 1, by omega⟩
      refine Layout.point _ _ ⟨fun c h => hc.digit c (List.mem_of_mem_take h), ?_⟩
        (fun c h => hc.digit c (List.mem_of_mem_drop h)) ?_
      · exact Or.inr ⟨first, _, by rw [hd, hn, List.take_succ_cons], hne⟩
      · intro hz
        have hl := congrArg List.length hz
        rw [List.length_drop, List.length_nil] at hl
        omega

theorem Layout.chars {text : List Char} (h : Layout text) :
    ∀ c ∈ text, c.isDigit = true ∨ c = '.' := by
  cases h with
  | whole digits hw => exact fun c hm => Or.inl (hw.digit c hm)
  | point digits fraction hw hf hne =>
    intro c hm
    rcases List.mem_append.mp hm with h | h
    · exact Or.inl (hw.digit c h)
    · rcases List.mem_cons.mp h with h | h
      · exact Or.inr h
      · exact Or.inl (hf c h)

theorem Layout.ne_nil {text : List Char} (h : Layout text) : text ≠ [] := by
  cases h with
  | whole digits hw =>
    rcases hw.head with h | ⟨first, rest, h, -⟩
    · simp [h]
    · simp [h]
  | point digits fraction hw hf hne => simp

end Decimal

namespace Binary64

/-- The text of a finite number is an optional sign and a magnitude. -/
theorem text_finite (negative : Bool) (units : Nat) (hr : Representable units) :
    ∃ magnitude, Decimal.Layout magnitude ∧
      (Binary64.finite negative units hr).text = signText negative ++ magnitude := by
  by_cases hu : units = 0
  · exact ⟨['0'], Decimal.Layout.whole _ Decimal.whole_zero, by simp [text, hu]⟩
  · exact ⟨(shortest .up units).positional,
      Decimal.positional_layout _ (shortest_clean .up units hr hu), by simp [text, hu]⟩

end Binary64

end QueryBlocks
