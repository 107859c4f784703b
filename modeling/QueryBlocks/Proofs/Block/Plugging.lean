import QueryBlocks.Proofs.Block.Lockstep

/-!
# Plugging elements in

An element that plugs something into an input fills this input and changes nothing else. Over a
list of elements the last one for an input decides what the input holds. Whether the list is
read at all depends on each element alone, because no element adds or takes away an input.
-/

set_option autoImplicit false

namespace QueryBlocks.Document

open Xml (Element)

structure Plugs (input : Input) (element plugged : Element) : Prop where
  value : element.name = "value"
  named : ∃ name, element.attribute? "name" = some name ∧ input.Named name
  first : firstNamed "block" element.children = some plugged

def Unplugged (input : Input) (elements : List Element) : Prop :=
  ∀ element ∈ elements, ∀ plugged, ¬Plugs input element plugged

/-- What the last of the elements that plug something into the input plugs into it. -/
def LastPlugged (input : Input) (elements : List Element) (plugged : Element) : Prop :=
  ∃ before element after, elements = before ++ element :: after ∧
    Plugs input element plugged ∧ Unplugged input after

theorem plugs_unique (input other : Input) (element a b : Element) (ha : Plugs input element a)
    (hb : Plugs other element b) : input = other ∧ a = b := by
  constructor
  · obtain ⟨name, hname, hnamed⟩ := ha.named
    obtain ⟨again, hagain, hother⟩ := hb.named
    obtain rfl : name = again := Option.some.inj (hname.symm.trans hagain)
    have hi := ((input?_eq_some name input).mpr hnamed).symm.trans
      ((input?_eq_some name other).mpr hother)
    exact Option.some.inj hi
  · exact Option.some.inj (ha.first.symm.trans hb.first)

theorem unplugged_or_lastPlugged (input : Input) (elements : List Element) :
    Unplugged input elements ∨ ∃ plugged, LastPlugged input elements plugged := by
  induction elements with
  | nil =>
    left
    intro element he
    cases he
  | cons element rest ih =>
    rcases ih with hrest | ⟨plugged, before, last, after, rfl, hplugs, hafter⟩
    · by_cases h : ∃ plugged, Plugs input element plugged
      · obtain ⟨plugged, hplugs⟩ := h
        exact .inr ⟨plugged, [], element, rest, rfl, hplugs, hrest⟩
      · left
        intro other ho plugged hplugs
        rcases List.mem_cons.mp ho with rfl | ho
        · exact h ⟨plugged, hplugs⟩
        · exact hrest other ho plugged hplugs
    · exact .inr ⟨plugged, element :: before, last, after, rfl, hplugs, hafter⟩

theorem LastPlugged.mem {input : Input} {elements : List Element} {plugged : Element}
    (h : LastPlugged input elements plugged) :
    ∃ element ∈ elements, Plugs input element plugged := by
  obtain ⟨before, element, after, rfl, hplugs, -⟩ := h
  exact ⟨element, List.mem_append_right _ List.mem_cons_self, hplugs⟩

def Input.Vacant (input : Input) (block : Block) : Prop :=
  match input with
  | .parameter index => block.value? index = none
  | .slot index => block.child? index = none

def Input.Holds (input : Input) (plugged : Element) (block : Block) : Prop :=
  match input with
  | .parameter index =>
    ∃ value, readValue plugged = .ok value ∧ block.value? index = some value
  | .slot index =>
    ∃ child, block.child? index = some child ∧
      ∀ next, ∃ own, ((loadTree plugged).run next).1 = .ok own ∧ child.Renumbered own

def Input.Same (input : Input) (before after : Block) : Prop :=
  match input with
  | .parameter index => after.value? index = before.value? index
  | .slot index => after.child? index = before.child? index

def Input.Agrees (input : Input) (a b : Block) : Prop :=
  match input with
  | .parameter index => a.value? index = b.value? index
  | .slot index => (a.child? index).map Block.anonymous = (b.child? index).map Block.anonymous

namespace Input

variable {input : Input}

theorem same_refl (input : Input) (block : Block) : input.Same block block := by
  cases input <;> rfl

theorem same_trans {a b c : Block} (hab : input.Same a b) (hbc : input.Same b c) :
    input.Same a c := by
  cases input <;> exact Eq.trans hbc hab

theorem vacant_same {before after : Block} (h : input.Same before after)
    (hv : input.Vacant before) : input.Vacant after := by
  cases input <;> exact Eq.trans h hv

theorem holds_same {plugged : Element} {before after : Block} (h : input.Same before after)
    (hb : input.Holds plugged before) : input.Holds plugged after := by
  cases input with
  | parameter index =>
    obtain ⟨value, hread, hvalue⟩ := hb
    exact ⟨value, hread, Eq.trans h hvalue⟩
  | slot index =>
    obtain ⟨child, hchild, hown⟩ := hb
    exact ⟨child, Eq.trans h hchild, hown⟩

theorem not_vacant {plugged : Element} {block : Block} (h : input.Holds plugged block) :
    ¬input.Vacant block := by
  intro hv
  cases input with
  | parameter index =>
    obtain ⟨value, -, hvalue⟩ := h
    cases hvalue.symm.trans hv
  | slot index =>
    obtain ⟨child, hchild, -⟩ := h
    cases hchild.symm.trans hv

theorem agrees_vacant {a b : Block} (ha : input.Vacant a) (hb : input.Vacant b) :
    input.Agrees a b := by
  cases input with
  | parameter index => exact Eq.trans ha hb.symm
  | slot index => exact congrArg (Option.map Block.anonymous) (Eq.trans ha hb.symm)

theorem agrees_holds {plugged : Element} {a b : Block} (ha : input.Holds plugged a)
    (hb : input.Holds plugged b) : input.Agrees a b := by
  cases input with
  | parameter index =>
    obtain ⟨value, hread, ha⟩ := ha
    obtain ⟨again, hagain, hb⟩ := hb
    obtain rfl : value = again := Except.ok.inj (hread.symm.trans hagain)
    exact ha.trans hb.symm
  | slot index =>
    obtain ⟨child, ha, hown⟩ := ha
    obtain ⟨other, hb, hother⟩ := hb
    obtain ⟨own, hrun, hsame⟩ := hown 0
    obtain ⟨again, hagain, hother⟩ := hother 0
    obtain rfl : own = again := Except.ok.inj (hrun.symm.trans hagain)
    have hchild : child.anonymous = other.anonymous := Eq.trans hsame hother.symm
    change (a.child? index).map Block.anonymous = (b.child? index).map Block.anonymous
    rw [ha, hb, Option.map_some, Option.map_some, hchild]

end Input

structure Plugged (input : Input) (plugged : Element) (before after : Block) : Prop where
  holds : input.Holds plugged after
  others : ∀ other, other ≠ input → other.Same before after
  emptied : after.emptied = before.emptied

theorem plugged_bind (plugged : Element) (block : Block) (index : Nat) (value : BoundValue)
    (hv : readValue plugged = .ok value) (hi : index < block.header.parameters.length) :
    Plugged (.parameter index) plugged block
      (block.mapHeader fun header => header.bind index (some value)) := by
  refine ⟨⟨value, hv, block.value?_bind index _ hi⟩, ?_, block.emptied_bind index _⟩
  intro other ho
  cases other with
  | parameter position => exact block.value?_bind_ne index _ position fun he => ho (he ▸ rfl)
  | slot position => exact block.child?_bind index _ position

theorem plugged_filled (plugged : Element) (block child : Block) (index next : Nat)
    (hc : ((loadTree plugged).run next).1 = .ok child) (hi : index < block.slots.length) :
    Plugged (.slot index) plugged block (block.filled index child) := by
  have hown := fun number => loadTree_again plugged next number child hc
  refine ⟨⟨child, block.child?_filled index child hi, hown⟩, ?_, block.emptied_filled index child⟩
  intro other ho
  cases other with
  | parameter position => exact block.value?_filled index child position
  | slot position => exact block.child?_filled_ne index child position fun he => ho (he ▸ rfl)

theorem plugged_plug (name : String) (plugged : Element) (block after : Block) (input : Input)
    (next stop : Nat) (h : (plug name plugged block input).run next = (.ok after, stop)) :
    Plugged input plugged block after := by
  cases input with
  | parameter index =>
    rw [run_plug_parameter] at h
    cases hv : readValue plugged with
    | error fault =>
      rw [hv] at h
      cases h
    | ok value =>
      rw [hv] at h
      by_cases hi : index < block.header.parameters.length
      · simp only [if_pos hi] at h
        cases h
        exact plugged_bind plugged block index value hv hi
      · simp only [if_neg hi] at h
        cases h
  | slot index =>
    rw [run_plug_slot] at h
    cases hc : (loadTree plugged).run next with
    | mk result mid =>
      rw [hc] at h
      cases result with
      | error fault => cases h
      | ok child =>
        by_cases hi : index < block.slots.length
        · simp only [if_pos hi] at h
          cases h
          exact plugged_filled plugged block child index next (congrArg Prod.fst hc) hi
        · simp only [if_neg hi] at h
          cases h

/-- An element plugs something in, or leaves the block as it is. -/
theorem loadInput_cases (element : Element) (block after : Block) (next stop : Nat)
    (h : (loadInput element block).run next = (.ok after, stop)) :
    (after = block ∧ ∀ input plugged, ¬Plugs input element plugged) ∨
      ∃ input plugged, Plugs input element plugged ∧ Plugged input plugged block after := by
  rw [loadInput] at h
  by_cases hn : element.name = "value"
  · rw [if_pos hn] at h
    obtain ⟨name, mid, hname, h⟩ := run_bind_eq_ok _ _ _ _ _ h
    cases hf : firstNamed "block" element.children with
    | none =>
      simp only [hf] at h
      cases h
      refine .inl ⟨rfl, ?_⟩
      intro input plugged hplugs
      cases hf.symm.trans hplugs.first
    | some plugged =>
      simp only [hf] at h
      obtain ⟨input, start, hinput, h⟩ := run_bind_eq_ok _ _ _ _ _ h
      have hattribute := (require_eq_ok element "name" name).mp (Prod.mk.inj hname).1
      have hnamed := (input?_eq_some name input).mp (orInvalid_eq_ok _ _ _ (Prod.mk.inj hinput).1)
      exact .inr ⟨input, plugged, ⟨hn, ⟨name, hattribute, hnamed⟩, hf⟩,
        plugged_plug name plugged block after input start stop h⟩
  · rw [if_neg hn] at h
    cases h
    exact .inl ⟨rfl, fun input plugged hplugs => hn hplugs.value⟩

theorem kept_loadInputs (elements : List Element) (block loaded : Block) (next stop : Nat)
    (h : (loadInputs elements block).run next = (.ok loaded, stop)) :
    loaded.emptied = block.emptied ∧
      ∀ input, Unplugged input elements → input.Same block loaded := by
  induction elements generalizing block next with
  | nil =>
    cases h
    exact ⟨rfl, fun input _ => input.same_refl _⟩
  | cons element rest ih =>
    rw [loadInputs_cons] at h
    obtain ⟨between, mid, hfirst, h⟩ := run_bind_eq_ok _ _ _ _ _ h
    obtain ⟨hrest, hsame⟩ := ih between mid h
    rcases loadInput_cases element block between next mid hfirst with
      ⟨rfl, -⟩ | ⟨filled, plugged, hplugs, hstep⟩
    · refine ⟨hrest, fun input hu => hsame input ?_⟩
      exact fun other ho => hu other (List.mem_cons_of_mem _ ho)
    · refine ⟨hrest.trans hstep.emptied, fun input hu => ?_⟩
      have hne : input ≠ filled := by
        rintro rfl
        exact hu element List.mem_cons_self plugged hplugs
      refine Input.same_trans (hstep.others input hne) (hsame input ?_)
      exact fun other ho => hu other (List.mem_cons_of_mem _ ho)

/-- The last element for an input decides: it fills the input, and those after it keep what the
input holds. -/
theorem holds_loadInputs (elements : List Element) (block loaded : Block) (next stop : Nat)
    (input : Input) (plugged : Element)
    (h : (loadInputs elements block).run next = (.ok loaded, stop))
    (hp : LastPlugged input elements plugged) : input.Holds plugged loaded := by
  obtain ⟨before, element, after, rfl, hplugs, hafter⟩ := hp
  rw [loadInputs_append] at h
  obtain ⟨between, mid, -, h⟩ := run_bind_eq_ok _ _ _ _ _ h
  rw [loadInputs_cons] at h
  obtain ⟨filled, start, hfilled, h⟩ := run_bind_eq_ok _ _ _ _ _ h
  have hsame := (kept_loadInputs after filled loaded start stop h).2 input hafter
  rcases loadInput_cases element between filled mid start hfilled with
    ⟨-, hnone⟩ | ⟨other, found, hother, hstep⟩
  · exact absurd hplugs (hnone input plugged)
  · obtain ⟨rfl, rfl⟩ := plugs_unique input other element plugged found hplugs hother
    exact Input.holds_same hsame hstep.holds

def Input.Takes (input : Input) (plugged : Element) (block : Block) : Prop :=
  match input with
  | .parameter index =>
    index < block.header.parameters.length ∧ ∃ value, readValue plugged = .ok value
  | .slot index => index < block.slots.length ∧ ∀ next, Succeeds (loadTree plugged) next

/-- A value has a name, and if there is a block inside it, then the name addresses an input that
takes that block. -/
def Admits (block : Block) (element : Element) : Prop :=
  element.name = "value" →
    ∃ name, element.attribute? "name" = some name ∧
      ∀ plugged, firstNamed "block" element.children = some plugged →
        ∃ input : Input, input.Named name ∧ input.Takes plugged block

theorem succeeds_again (e : Element) (start next : Nat) (h : Succeeds (loadTree e) start) :
    Succeeds (loadTree e) next := by
  obtain ⟨loaded, h⟩ := h
  obtain ⟨again, hagain, -⟩ := loadTree_again e start next loaded h
  exact ⟨again, hagain⟩

theorem succeeds_plug (name : String) (plugged : Element) (block : Block) (input : Input)
    (next : Nat) : Succeeds (plug name plugged block input) next ↔ input.Takes plugged block := by
  cases input with
  | parameter index =>
    rw [Succeeds, run_plug_parameter, Input.Takes]
    cases readValue plugged with
    | error fault => simp
    | ok value => by_cases hi : index < block.header.parameters.length <;> simp [hi]
  | slot index =>
    have hs : Succeeds (loadTree plugged) next ↔ ∀ start, Succeeds (loadTree plugged) start :=
      ⟨fun h start => succeeds_again plugged next start h, fun h => h next⟩
    rw [Succeeds, run_plug_slot, Input.Takes, ← hs, Succeeds]
    obtain ⟨result, stop⟩ := (loadTree plugged).run next
    cases result with
    | error fault => simp
    | ok child => by_cases hi : index < block.slots.length <;> simp [hi]

theorem succeeds_loadInput (element : Element) (block : Block) (next : Nat) :
    Succeeds (loadInput element block) next ↔ Admits block element := by
  rw [loadInput, Admits]
  by_cases hn : element.name = "value"
  · rw [if_pos hn, succeeds_ofExcept]
    constructor
    · rintro ⟨name, hname, h⟩ -
      refine ⟨name, (require_eq_ok element "name" name).mp hname, fun plugged hf => ?_⟩
      simp only [hf] at h
      obtain ⟨input, hinput, h⟩ := (succeeds_ofExcept _ _ next).mp h
      exact ⟨input, (input?_eq_some name input).mp (orInvalid_eq_ok _ _ _ hinput),
        (succeeds_plug name plugged block input next).mp h⟩
    · intro h
      obtain ⟨name, hname, h⟩ := h hn
      refine ⟨name, (require_eq_ok element "name" name).mpr hname, ?_⟩
      cases hf : firstNamed "block" element.children with
      | none => exact ⟨block, rfl⟩
      | some plugged =>
        obtain ⟨input, hnamed, htakes⟩ := h plugged hf
        refine (succeeds_ofExcept _ _ next).mpr ⟨input, ?_, ?_⟩
        · rw [(input?_eq_some name input).mpr hnamed]
          rfl
        · exact (succeeds_plug name plugged block input next).mpr htakes
  · rw [if_neg hn]
    exact ⟨fun _ hv => absurd hv hn, fun _ => ⟨block, rfl⟩⟩

theorem admits_emptied (a b : Block) (h : a.emptied = b.emptied) (element : Element)
    (ha : Admits a element) : Admits b element := by
  intro hn
  obtain ⟨name, hname, ha⟩ := ha hn
  refine ⟨name, hname, fun plugged hf => ?_⟩
  obtain ⟨input, hnamed, htakes⟩ := ha plugged hf
  refine ⟨input, hnamed, ?_⟩
  cases input with
  | parameter index =>
    refine ⟨?_, htakes.2⟩
    rw [← Block.parameters_length_emptied, ← h, Block.parameters_length_emptied]
    exact htakes.1
  | slot index =>
    refine ⟨?_, htakes.2⟩
    rw [← Block.slots_length_emptied, ← h, Block.slots_length_emptied]
    exact htakes.1

/-- Whether the elements are read into a block depends on each of them alone. -/
theorem succeeds_loadInputs (elements : List Element) (block : Block) (next : Nat) :
    Succeeds (loadInputs elements block) next ↔ ∀ element ∈ elements, Admits block element := by
  induction elements generalizing block next with
  | nil =>
    refine ⟨fun _ element he => absurd he List.not_mem_nil, fun _ => ⟨block, ?_⟩⟩
    rw [loadInputs]
    rfl
  | cons element rest ih =>
    rw [loadInputs_cons, succeeds_bind, List.forall_mem_cons,
      ← succeeds_loadInput element block next]
    have hkept : ∀ between mid, (loadInput element block).run next = (.ok between, mid) →
        between.emptied = block.emptied := by
      intro between mid h
      rcases loadInput_cases element block between next mid h with ⟨rfl, -⟩ | ⟨_, _, -, hstep⟩
      · rfl
      · exact hstep.emptied
    constructor
    · rintro ⟨between, mid, h, hrest⟩
      refine ⟨⟨between, congrArg Prod.fst h⟩, fun other ho => ?_⟩
      exact admits_emptied between block (hkept between mid h) other
        ((ih between mid).mp hrest other ho)
    · rintro ⟨⟨between, h⟩, hrest⟩
      have hrun : (loadInput element block).run next =
          (.ok between, ((loadInput element block).run next).2) := Prod.ext h rfl
      refine ⟨between, _, hrun, (ih between _).mpr fun other ho => ?_⟩
      exact admits_emptied block between (hkept between _ hrun).symm other (hrest other ho)

/-- Exactly the blocks are read that have a readable state, and around it no value that this state
does not admit. -/
theorem succeeds_loadTree_iff (e : Element) (next : Nat) :
    Succeeds (loadTree e) next ↔
      e.name = "block" ∧ ∃ state, firstNamed "mutation" e.children = some state ∧
        ∃ blank, ((loadState state).run next).1 = .ok blank ∧
          ∀ element ∈ e.children, Admits blank element := by
  constructor
  · rintro ⟨loaded, h⟩
    obtain ⟨state, blank, mid, stop, hname, hfirst, hstate, hinputs⟩ :=
      loadTree_eq_ok e next loaded h
    have hs : Succeeds (loadInputs e.children blank) mid := ⟨loaded, congrArg Prod.fst hinputs⟩
    exact ⟨hname, state, hfirst, blank, congrArg Prod.fst hstate,
      (succeeds_loadInputs e.children blank mid).mp hs⟩
  · rintro ⟨hname, state, hfirst, blank, hstate, hadmits⟩
    rw [loadTree_of_state e state hname hfirst, succeeds_bind]
    exact ⟨blank, _, Prod.ext hstate rfl, (succeeds_loadInputs e.children blank _).mpr hadmits⟩

end QueryBlocks.Document
