import Mathlib.Data.Bool.AllAny
import Mathlib.Tactic.SplitIfs
import QueryBlocks.Xml.Attribute

/-!
# Escaped text reads back

Escaping leaves no angle bracket and no quotation mark behind, so the scanner never takes a
written value for markup, and reading gives every character of the value back.
-/

set_option autoImplicit false

namespace QueryBlocks.Xml

theorem escapeChar_ne (c d : Char) (h : d ∈ escapeChar c) : d ≠ '<' ∧ d ≠ '>' ∧ d ≠ '"' := by
  unfold escapeChar at h
  split_ifs at h with hlt hgt hamp hapos hquot
  · revert d
    exact List.all_iff_forall_prop.mp (by decide)
  · revert d
    exact List.all_iff_forall_prop.mp (by decide)
  · revert d
    exact List.all_iff_forall_prop.mp (by decide)
  · revert d
    exact List.all_iff_forall_prop.mp (by decide)
  · revert d
    exact List.all_iff_forall_prop.mp (by decide)
  · rw [List.mem_singleton.mp h]
    exact ⟨hlt, hgt, hquot⟩

theorem escape_ne (cs : List Char) (d : Char) (h : d ∈ escape cs) :
    d ≠ '<' ∧ d ≠ '>' ∧ d ≠ '"' := by
  obtain ⟨c, -, hc⟩ := List.mem_flatMap.mp h
  exact escapeChar_ne c d hc

theorem escape_cons (c : Char) (cs : List Char) : escape (c :: cs) = escapeChar c ++ escape cs :=
  List.flatMap_cons

theorem escape_eq_nil (cs : List Char) : escape cs = [] ↔ cs = [] := by
  cases cs with
  | nil => exact ⟨fun _ => rfl, fun _ => rfl⟩
  | cons c cs =>
    have hc : escapeChar c ≠ [] := by
      unfold escapeChar
      split_ifs <;> simp
    simp [escape_cons, hc]

theorem unescapeAt_escapeChar (place : Nat) (c : Char) (rest : List Char) :
    ∃ next, unescapeAt place none (escapeChar c ++ rest) =
      (unescapeAt next none rest).map (c :: ·) := by
  unfold escapeChar
  split_ifs with hlt hgt hamp hapos hquot
  · subst hlt
    exact ⟨_, rfl⟩
  · subst hgt
    exact ⟨_, rfl⟩
  · subst hamp
    exact ⟨_, rfl⟩
  · subst hapos
    exact ⟨_, rfl⟩
  · subst hquot
    exact ⟨_, rfl⟩
  · refine ⟨place + c.utf8Size, ?_⟩
    rw [List.singleton_append, unescapeAt]
    simp only [hamp, if_false]
    rfl

theorem unescapeAt_escape (place : Nat) (cs : List Char) :
    unescapeAt place none (escape cs) = .ok cs := by
  induction cs generalizing place with
  | nil => rfl
  | cons c cs ih =>
    obtain ⟨next, hn⟩ := unescapeAt_escapeChar place c (escape cs)
    rw [escape_cons, hn, ih]
    rfl

theorem unescapeValue_escape (value : String) :
    unescapeValue (escape value.toList) = .ok value := by
  simp [unescapeValue, unescape, unescapeAt_escape]

end QueryBlocks.Xml
