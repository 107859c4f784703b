import QueryBlocks.Proofs.Block.Reading

/-!
# What every loaded block has

A document gives a block its state, then values and children one after the other. What holds of a
block with no more than its state, and of a block with one value or one child more, holds of every
block of a tree that is loaded, however deep it stands.
-/

set_option autoImplicit false

namespace QueryBlocks

namespace Block

def Each (p : Block → Prop) (block : Block) : Prop := ∀ b ∈ block.preorder, p b

theorem each_iff (p : Block → Prop) (block : Block) :
    block.Each p ↔ p block ∧ ∀ child, some child ∈ block.slots → child.Each p := by
  constructor
  · intro h
    refine ⟨h block (by rw [preorder_eq]; exact List.mem_cons_self), ?_⟩
    intro child hc b hb
    apply h b
    rw [preorder_eq]
    exact List.mem_cons_of_mem _ ((mem_preorderSlots b block.slots).mpr ⟨child, hc, hb⟩)
  · rintro ⟨hblock, hs⟩ b hb
    rw [preorder_eq, List.mem_cons, mem_preorderSlots] at hb
    rcases hb with rfl | ⟨child, hc, hb⟩
    · exact hblock
    · exact hs child hc b hb

end Block

namespace Document

open Xml (Element)

/-- What is read of a block's own state has nothing in its slots. -/
theorem childless_loadState (element : Element) (next stop : Nat) (block : Block)
    (h : (loadState element).run next = (.ok block, stop)) (child : Block) :
    some child ∉ block.slots := by
  obtain ⟨endpoint, field, typeName, count, -, hadded⟩ :=
    loadState_eq_ok element next stop block h
  refine addParameters_keeps (fun block => some child ∉ block.slots) ?_ element.children _ block
    ?_ hadded
  · intro block name typeName hb
    cases block <;> exact hb
  · cases count with
    | none => exact List.not_mem_nil
    | some slots => exact fun hc => nomatch List.eq_of_mem_replicate hc

structure KeptByReading (p : Block → Prop) : Prop where
  state : ∀ element next stop block, (loadState element).run next = (.ok block, stop) → p block
  value : ∀ block index value, index ≤ Text.maxUnsigned → p block →
    p (block.mapHeader fun header => header.bind index value)
  child : ∀ block index child, p block → p (block.filled index child)

theorem input?_parameter_le (name : String) (index : Nat)
    (h : input? name = some (.parameter index)) : index ≤ Text.maxUnsigned := by
  obtain ⟨digits, -, hread⟩ := (input?_eq_some name (.parameter index)).mp h
  exact Text.readUnsigned_le digits.toList index hread

section

variable {p : Block → Prop}

theorem each_loadState (hp : KeptByReading p) (element : Element) (next stop : Nat) (block : Block)
    (h : (loadState element).run next = (.ok block, stop)) : block.Each p := by
  refine (block.each_iff p).mpr ⟨hp.state element next stop block h, fun child hc => ?_⟩
  exact absurd hc (childless_loadState element next stop block h child)

theorem each_bindAt? (hp : KeptByReading p) (block bound : Block) (index : Nat)
    (value : Option BoundValue) (h : block.Each p) (hi : index ≤ Text.maxUnsigned)
    (hb : block.bindAt? index value = some bound) : bound.Each p := by
  rw [Block.bindAt?] at hb
  split at hb
  · cases hb
    rw [Block.each_iff] at h ⊢
    refine ⟨hp.value block index value hi h.1, ?_⟩
    cases block <;> exact h.2
  · cases hb

theorem each_fillSlot (hp : KeptByReading p) (block child filled : Block) (index : Nat)
    (held : Option Block) (h : block.Each p) (hc : child.Each p)
    (hf : block.fillSlot index child = .ok (held, filled)) : filled.Each p := by
  by_cases hi : index < block.slots.length
  · rw [block.fillSlot_of_lt index child hi] at hf
    cases hf
    rw [Block.each_iff] at h ⊢
    refine ⟨hp.child block index child h.1, ?_⟩
    cases block with
    | scalar header => exact h.2
    | object header slots =>
      intro other ho
      rcases List.mem_or_eq_of_mem_set ho with ho | ho
      · exact h.2 other ho
      · cases ho
        exact hc
  · obtain ⟨cause, hcause⟩ := block.fillSlot_of_ge index child (Nat.le_of_not_lt hi)
    rw [hcause] at hf
    cases hf

mutual

theorem each_loadTree (hp : KeptByReading p) (e : Element) (next stop : Nat) (block : Block)
    (h : (loadTree e).run next = (.ok block, stop)) : block.Each p := by
  match e with
  | .mk name attributes children text =>
    rw [loadTree] at h
    by_cases hn : name = "block"
    · simp only [hn, ne_eq, not_true_eq_false, if_false] at h
      cases hs : firstNamed "mutation" children with
      | none =>
        rw [hs] at h
        cases h
      | some state =>
        rw [hs] at h
        obtain ⟨blank, mid, hblank, h⟩ := run_bind_eq_ok _ _ _ _ _ h
        exact each_loadInputs hp children blank mid stop block
          (each_loadState hp state next mid blank hblank) h
    · simp only [hn, ne_eq, not_false_eq_true, if_true] at h
      cases h

theorem each_loadInputs (hp : KeptByReading p) (elements : List Element) (block : Block)
    (next stop : Nat) (loaded : Block) (hb : block.Each p)
    (h : (loadInputs elements block).run next = (.ok loaded, stop)) : loaded.Each p := by
  match elements with
  | [] =>
    cases h
    exact hb
  | .mk name attributes children text :: rest =>
    rw [loadInputs] at h
    by_cases hn : name = "value"
    · rw [if_pos hn] at h
      obtain ⟨input, _, -, h⟩ := run_bind_eq_ok _ _ _ _ _ h
      obtain ⟨plugged, mid, hplugged, h⟩ := run_bind_eq_ok _ _ _ _ _ h
      exact each_loadInputs hp rest plugged mid stop loaded
        (each_loadPlugged hp input children block _ mid plugged hb hplugged) h
    · rw [if_neg hn] at h
      exact each_loadInputs hp rest block next stop loaded hb h

theorem each_loadPlugged (hp : KeptByReading p) (input : String) (elements : List Element)
    (block : Block) (next stop : Nat) (loaded : Block) (hb : block.Each p)
    (h : (loadPlugged input elements block).run next = (.ok loaded, stop)) : loaded.Each p := by
  match elements with
  | [] =>
    cases h
    exact hb
  | .mk name attributes children text :: rest =>
    rw [loadPlugged] at h
    by_cases hn : name = "block"
    · rw [if_pos hn] at h
      obtain ⟨place, mid, hplace, h⟩ := run_bind_eq_ok _ _ _ _ _ h
      have hplace := orInvalid_eq_ok _ _ _ (Prod.mk.inj hplace).1
      cases place with
      | parameter index =>
        obtain ⟨value, _, -, h⟩ := run_bind_eq_ok _ _ _ _ _ h
        have hbound := orInvalid_eq_ok _ _ _ (Prod.mk.inj h).1
        exact each_bindAt? hp block loaded index (some value) hb
          (input?_parameter_le input index hplace) hbound
      | slot index =>
        obtain ⟨child, _, hchild, h⟩ := run_bind_eq_ok _ _ _ _ _ h
        have hc := each_loadTree hp (.mk name attributes children text) _ _ child hchild
        cases hf : block.fillSlot index child with
        | error cause =>
          simp only [hf] at h
          cases h
        | ok filled =>
          simp only [hf] at h
          cases h
          exact each_fillSlot hp block child filled.2 index filled.1 hb hc hf
    · rw [if_neg hn] at h
      exact each_loadPlugged hp input rest block next stop loaded hb h

end

theorem each_ofTreeText (hp : KeptByReading p) (text : String) (start stop : Nat) (tree : Block)
    (h : (Block.ofTreeText text).run start = (.ok tree, stop)) : tree.Each p := by
  obtain ⟨element, mid, -, h⟩ := run_bind_eq_ok _ _ _ _ _ h
  exact each_loadTree hp element mid stop tree h

end

theorem keptByReading_unchecked : KeptByReading fun block =>
    block.header.state = .unbound ∧ block.header.description = none ∧
      block.header.typeDescription = none where
  state element next stop block h := by
    obtain ⟨endpoint, field, typeName, count, -, hadded⟩ :=
      loadState_eq_ok element next stop block h
    refine addParameters_keeps (fun block => block.header.state = .unbound ∧
      block.header.description = none ∧ block.header.typeDescription = none) ?_ element.children _
      block ?_ hadded
    · intro block name typeName hb
      cases block <;> exact hb
    · cases count <;> exact ⟨rfl, rfl, rfl⟩
  value block index value _ hb := by
    cases block <;> exact hb
  child block index child hb := by
    cases block <;> exact hb

/-- A tree that is loaded has not been checked, at no place. -/
theorem unchecked_ofTreeText (text : String) (start stop : Nat) (tree : Block)
    (h : (Block.ofTreeText text).run start = (.ok tree, stop)) : tree.Unchecked :=
  each_ofTreeText keptByReading_unchecked text start stop tree h

end Document

end QueryBlocks
