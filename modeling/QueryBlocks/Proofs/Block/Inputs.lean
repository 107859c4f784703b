import QueryBlocks.Proofs.Block.Plugging

/-!
# What fills an input

Of several elements that address one input the last that holds a block fills it, and an input that
none of them addresses stays empty. The order of the elements decides only between elements for
one input: a block is read in every order or in none, and where no two elements address the same
input it is the same block up to identities.
-/

set_option autoImplicit false

namespace QueryBlocks.Document

open Xml (Element)

/-- What every input of a block holds, by the elements that it was read from. -/
structure Filled (elements : List Element) (loaded : Block) : Prop where
  vacant : ∀ input : Input, input.Vacant loaded ↔ Unplugged input elements
  last : ∀ (input : Input) (plugged : Element), LastPlugged input elements plugged →
    input.Holds plugged loaded

/-- The values of an element in another order. They may also stand elsewhere among the other
children, whose order stays. -/
structure Rearranged (e other : Element) : Prop where
  name : e.name = other.name
  rest : e.children.filter (fun child => child.name ≠ "value") =
    other.children.filter fun child => child.name ≠ "value"
  values : (e.children.filter fun child => child.name = "value").Perm
    (other.children.filter fun child => child.name = "value")

def Apart (elements : List Element) : Prop :=
  elements.Pairwise fun a b => ∀ input p q, Plugs input a p → ¬Plugs input b q

def target? (element : Element) : Option Input :=
  if element.name = "value" ∧ (firstNamed "block" element.children).isSome then
    (element.attribute? "name").bind input?
  else none

theorem target?_eq_some (element : Element) (input : Input) :
    target? element = some input ↔ ∃ plugged, Plugs input element plugged := by
  unfold target?
  constructor
  · intro h
    split at h
    · next hv =>
      obtain ⟨plugged, hf⟩ := Option.isSome_iff_exists.mp hv.2
      obtain ⟨name, hname, hinput⟩ := Option.bind_eq_some_iff.mp h
      exact ⟨plugged, hv.1, ⟨name, hname, (input?_eq_some name input).mp hinput⟩, hf⟩
    · cases h
  · rintro ⟨plugged, hv, ⟨name, hname, hnamed⟩, hf⟩
    rw [if_pos ⟨hv, Option.isSome_of_eq_some hf⟩, hname]
    exact (input?_eq_some name input).mpr hnamed

theorem apart_iff (elements : List Element) :
    Apart elements ↔ (elements.filterMap target?).Nodup := by
  rw [List.Nodup, List.pairwise_filterMap]
  apply List.Pairwise.iff
  intro a b
  constructor
  · intro h input ha other hb heq
    obtain ⟨p, hp⟩ := (target?_eq_some a input).mp ha
    obtain ⟨q, hq⟩ := (target?_eq_some b other).mp hb
    exact h input p q hp (heq ▸ hq)
  · intro h input p q hp hq
    exact h input ((target?_eq_some a input).mpr ⟨p, hp⟩) input
      ((target?_eq_some b input).mpr ⟨q, hq⟩) rfl

theorem unplugged_iff (input : Input) (elements : List Element) :
    Unplugged input elements ↔ ∀ element ∈ elements, target? element ≠ some input := by
  refine forall₂_congr fun element _ => ?_
  rw [Ne, target?_eq_some, not_exists]

instance (elements : List Element) : Decidable (Apart elements) :=
  decidable_of_iff _ (apart_iff elements).symm

instance (input : Input) (elements : List Element) : Decidable (Unplugged input elements) :=
  decidable_of_iff _ (unplugged_iff input elements).symm

theorem vacant_addParameter (block : Block) (name typeName : String)
    (h : ∀ input : Input, input.Vacant block) (input : Input) :
    input.Vacant (block.mapHeader fun header => header.addParameter name typeName) := by
  cases input with
  | parameter index =>
    have hv : block.value? index = none := h (.parameter index)
    have hp : (block.mapHeader fun header => header.addParameter name typeName).header.parameters =
        block.header.parameters ++ [{ name, typeName, value := none }] := by
      cases block <;> rfl
    change Block.value? _ index = none
    rw [Block.value?, hp, List.getElem?_append]
    split
    · exact hv
    · -- the new parameter has no value
      cases hn : [({ name, typeName, value := none } : Parameter)][
          index - block.header.parameters.length]? with
      | none => rfl
      | some p =>
        obtain rfl := List.mem_singleton.mp (List.mem_of_getElem? hn)
        rfl
  | slot index =>
    have hc : block.child? index = none := h (.slot index)
    cases block <;> exact hc

theorem vacant_loadState (element : Element) (next stop : Nat) (block : Block)
    (h : (loadState element).run next = (.ok block, stop)) (input : Input) :
    input.Vacant block := by
  obtain ⟨endpoint, field, typeName, count, -, hadded⟩ := loadState_eq_ok element next stop block h
  refine addParameters_keeps (fun block => ∀ input : Input, input.Vacant block)
    vacant_addParameter element.children _ block ?_ hadded input
  intro input
  cases count with
  | none => cases input <;> rfl
  | some slots =>
    cases input with
    | parameter index => rfl
    | slot index =>
      change (List.replicate slots none)[index]?.join = none
      rw [List.getElem?_replicate]
      split <;> rfl

theorem filled_loadTree (e : Element) (next : Nat) (loaded : Block)
    (h : ((loadTree e).run next).1 = .ok loaded) : Filled e.children loaded := by
  obtain ⟨state, blank, mid, stop, -, -, hstate, hinputs⟩ := loadTree_eq_ok e next loaded h
  have hlast : ∀ (input : Input) plugged, LastPlugged input e.children plugged →
      input.Holds plugged loaded := fun input plugged =>
    holds_loadInputs e.children blank loaded mid stop input plugged hinputs
  refine ⟨fun input => ⟨fun hv => ?_, fun hu => ?_⟩, hlast⟩
  · rcases unplugged_or_lastPlugged input e.children with hu | ⟨plugged, hp⟩
    · exact hu
    · exact absurd hv (Input.not_vacant (hlast input plugged hp))
  · exact Input.vacant_same ((kept_loadInputs e.children blank loaded mid stop hinputs).2 input hu)
      (vacant_loadState state next mid blank hstate input)

theorem firstNamed_filter (name : String) (h : name ≠ "value") (elements : List Element) :
    firstNamed name (elements.filter fun child => child.name ≠ "value") =
      firstNamed name elements := by
  rw [firstNamed, List.find?_filter, firstNamed]
  congr 1
  funext child
  by_cases hn : child.name = name
  · simp [hn, h]
  · simp [hn]

namespace Rearranged

variable {e other : Element}

theorem symm (h : Rearranged e other) : Rearranged other e :=
  ⟨h.name.symm, h.rest.symm, h.values.symm⟩

theorem perm (h : Rearranged e other) : e.children.Perm other.children := by
  have hsplit (elements : List Element) :
      ((elements.filter fun child => child.name = "value") ++
        elements.filter fun child => child.name ≠ "value").Perm elements := by
    simpa using List.filter_append_perm (fun child => decide (child.name = "value")) elements
  refine (hsplit e.children).symm.trans (List.Perm.trans ?_ (hsplit other.children))
  rw [h.rest]
  exact h.values.append_right _

theorem state (h : Rearranged e other) :
    firstNamed "mutation" e.children = firstNamed "mutation" other.children := by
  rw [← firstNamed_filter "mutation" (by decide) e.children, h.rest,
    firstNamed_filter "mutation" (by decide)]

end Rearranged

theorem succeeds_rearranged (e other : Element) (h : Rearranged e other) (start next : Nat)
    (hs : Succeeds (loadTree e) start) : Succeeds (loadTree other) next := by
  obtain ⟨hname, state, hfirst, blank, hstate, hadmits⟩ := (succeeds_loadTree_iff e start).mp hs
  obtain ⟨again, hagain, hsame⟩ :=
    loaded_inStep _ _ (inStep_loadState state) start next blank hstate
  refine (succeeds_loadTree_iff other next).mpr
    ⟨h.name.symm.trans hname, state, h.state.symm.trans hfirst, again, hagain, ?_⟩
  intro element he
  exact admits_emptied blank again (Block.emptied_renumbered blank again hsame) element
    (hadmits element (h.perm.mem_iff.mpr he))

/-- Where no two elements address one input, there is one thing to plug into it. -/
theorem plugged_apart (elements : List Element) (h : Apart elements) (input : Input)
    (a b p q : Element) (ha : a ∈ elements) (hb : b ∈ elements) (hp : Plugs input a p)
    (hq : Plugs input b q) : p = q := by
  by_cases hab : a = b
  · subst hab
    exact (plugs_unique input input a p q hp hq).2
  · have hs : Std.Symm fun a b => ∀ input p q, Plugs input a p → ¬Plugs input b q :=
      ⟨fun a b h input p q hb ha => h input q p ha hb⟩
    exact absurd hq (List.Pairwise.forall h ha hb hab input p q hp)

/-- In another order elements that stay apart leave the same in every input. -/
theorem agrees_of_filled (elements others : List Element) (hperm : elements.Perm others)
    (apart : Apart elements) (a b : Block) (ha : Filled elements a) (hb : Filled others b)
    (input : Input) : input.Agrees a b := by
  rcases unplugged_or_lastPlugged input elements with hu | ⟨p, hp⟩
  · have hv : Unplugged input others := fun element he => hu element (hperm.mem_iff.mpr he)
    exact Input.agrees_vacant ((ha.vacant input).mpr hu) ((hb.vacant input).mpr hv)
  · obtain ⟨x, hx, hplugs⟩ := hp.mem
    rcases unplugged_or_lastPlugged input others with hv | ⟨q, hq⟩
    · exact absurd hplugs (hv x (hperm.mem_iff.mp hx) p)
    · -- the last element for the input may be another one here, but it plugs in the same
      obtain ⟨y, hy, hplugs'⟩ := hq.mem
      obtain rfl : p = q := plugged_apart elements apart input x y p q hx
        (hperm.mem_iff.mpr hy) hplugs hplugs'
      exact Input.agrees_holds (ha.last input p hp) (hb.last input p hq)

/-- Apart from their inputs the blocks are the same, in whatever order the values come. -/
theorem emptied_rearranged (e other : Element) (h : Rearranged e other) (start next : Nat)
    (loaded again : Block) (hl : ((loadTree e).run start).1 = .ok loaded)
    (hg : ((loadTree other).run next).1 = .ok again) : loaded.emptied = again.emptied := by
  obtain ⟨state, blank, mid, stop, -, hfirst, hstate, hinputs⟩ := loadTree_eq_ok e start loaded hl
  obtain ⟨state', blank', mid', stop', -, hfirst', hstate', hinputs'⟩ :=
    loadTree_eq_ok other next again hg
  obtain rfl : state = state' := Option.some.inj (hfirst.symm.trans (h.state.trans hfirst'))
  have hblank : blank.Renumbered blank' := by
    obtain ⟨found, hfound, hsame⟩ := loaded_inStep _ _ (inStep_loadState state) start next blank
      (congrArg Prod.fst hstate)
    obtain rfl : found = blank' := by
      rw [hstate'] at hfound
      exact (Except.ok.inj hfound).symm
    exact hsame
  calc loaded.emptied = blank.emptied :=
        (kept_loadInputs e.children blank loaded mid stop hinputs).1
    _ = blank'.emptied := Block.emptied_renumbered blank blank' hblank
    _ = again.emptied :=
        (kept_loadInputs other.children blank' again mid' stop' hinputs').1.symm

theorem renumbered_rearranged (e other : Element) (h : Rearranged e other)
    (apart : Apart e.children) (start next : Nat) (loaded again : Block)
    (hl : ((loadTree e).run start).1 = .ok loaded)
    (hg : ((loadTree other).run next).1 = .ok again) : loaded.Renumbered again := by
  have hagrees := agrees_of_filled e.children other.children h.perm apart loaded again
    (filled_loadTree e start loaded hl) (filled_loadTree other next again hg)
  exact Block.renumbered_of_inputs loaded again
    (emptied_rearranged e other h start next loaded again hl hg)
    (fun i => hagrees (.parameter i)) fun i => hagrees (.slot i)

/-- A block is read exactly if its state is and every value around it is admitted. Every input of
what is read holds what the last element for it plugs in, and is empty if there is none. The same
values in another order are read exactly when these are, and give the same block up to identities
if no two of them address the same input. -/
theorem loadTree_inputs (e : Element) :
    (∀ next, Succeeds (loadTree e) next ↔
      e.name = "block" ∧ ∃ state, firstNamed "mutation" e.children = some state ∧
        ∃ blank, ((loadState state).run next).1 = .ok blank ∧
          ∀ element ∈ e.children, Admits blank element) ∧
    (∀ next loaded, ((loadTree e).run next).1 = .ok loaded → Filled e.children loaded) ∧
    ∀ other, Rearranged e other → ∀ start next,
      (Succeeds (loadTree e) start ↔ Succeeds (loadTree other) next) ∧
      (Apart e.children → ∀ loaded again, ((loadTree e).run start).1 = .ok loaded →
        ((loadTree other).run next).1 = .ok again → loaded.Renumbered again) := by
  refine ⟨succeeds_loadTree_iff e, filled_loadTree e, fun other h start next => ⟨⟨?_, ?_⟩, ?_⟩⟩
  · exact succeeds_rearranged e other h start next
  · exact succeeds_rearranged other e h.symm next start
  · intro ha loaded again
    exact renumbered_rearranged e other h ha start next loaded again

def leaf (field : String) : Element :=
  .mk "block" [] [.mk "mutation" [("gql_url", ""), ("gql_name", field), ("gql_type", "T")] [] ""] ""

def valueNamed (name : String) (inside : List Element) : Element :=
  .mk "value" [("name", name)] inside ""

def desk (values : List Element) : Element :=
  .mk "block" []
    (.mk "mutation"
      [("gql_url", "u"), ("gql_name", "a"), ("gql_type", "T"), ("gql_fields", "2")]
      [.mk "gql_parameter" [("gql_name", "p"), ("gql_type", "S")] [] ""] "" :: values) ""

def spelled : List Element :=
  [valueNamed "GQL_FIELD+01" [leaf "b"], valueNamed "anything" [],
    valueNamed "GQL_PARAMETER00" [plugBlock "text" "TEXT" "v"], valueNamed "GQL_FIELD0" [leaf "c"]]

def overwriting : List Element :=
  [valueNamed "GQL_FIELD1" [leaf "b"], valueNamed "GQL_FIELD+01" [leaf "c"]]

private theorem exists_of_isSome (result : Except LoadError Block)
    (h : result.toOption.isSome = true) : ∃ loaded, result = .ok loaded := by
  cases result with
  | error fault => cases h
  | ok loaded => exact ⟨loaded, rfl⟩

/-- In reverse order the spelled values make the same block, and of two values for one slot the
second fills it. -/
theorem loadTree_inputs_desk :
    (∃ loaded again, ((loadTree (desk spelled)).run 1).1 = .ok loaded ∧
      ((loadTree (desk spelled.reverse)).run 7).1 = .ok again ∧
      Rearranged (desk spelled) (desk spelled.reverse) ∧ Apart (desk spelled).children ∧
      Filled (desk spelled).children loaded ∧ loaded.Renumbered again) ∧
    ∃ loaded, ((loadTree (desk overwriting)).run 1).1 = .ok loaded ∧
      (Input.slot 1).Holds (leaf "c") loaded ∧ (Input.slot 0).Vacant loaded ∧
      (Input.parameter 0).Vacant loaded := by
  constructor
  · obtain ⟨loaded, hl⟩ := exists_of_isSome ((loadTree (desk spelled)).run 1).1 (by decide +kernel)
    obtain ⟨again, hg⟩ :=
      exists_of_isSome ((loadTree (desk spelled.reverse)).run 7).1 (by decide +kernel)
    have hr : Rearranged (desk spelled) (desk spelled.reverse)  :=
      ⟨rfl, by simp [desk, spelled, valueNamed, Element.children, Element.name], by
        simpa [desk, spelled, valueNamed, Element.children, Element.name] using
          (List.reverse_perm spelled).symm⟩
    have ha : Apart (desk spelled).children := by decide +kernel
    obtain ⟨-, hfilled, horder⟩ := loadTree_inputs (desk spelled)
    exact ⟨loaded, again, hl, hg, hr, ha, hfilled 1 loaded hl,
      (horder _ hr 1 7).2 ha loaded again hl hg⟩
  · obtain ⟨loaded, hl⟩ :=
      exists_of_isSome ((loadTree (desk overwriting)).run 1).1 (by decide +kernel)
    have hfilled := (loadTree_inputs (desk overwriting)).2.1 1 loaded hl
    have hlast : LastPlugged (.slot 1) (desk overwriting).children (leaf "c") :=
      ⟨(desk overwriting).children.dropLast, _, [], rfl, ⟨rfl, ⟨_, rfl, "+01", rfl, rfl⟩, rfl⟩,
        by decide⟩
    exact ⟨loaded, hl, hfilled.last _ _ hlast, (hfilled.vacant (.slot 0)).mpr (by decide +kernel),
      (hfilled.vacant (.parameter 0)).mpr (by decide +kernel)⟩

end QueryBlocks.Document
