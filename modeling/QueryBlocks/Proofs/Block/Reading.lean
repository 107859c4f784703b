import QueryBlocks.Proofs.Block.Contents

/-!
# One element after the other

A block is read from its own state and then from the elements around that state, in their order.
An element named `value` plugs the first block inside it into the input that its name addresses.
Any other element, and a value without a block, leaves the block as it is.
-/

set_option autoImplicit false

namespace QueryBlocks.Document

open Xml (Element)

def Input.Named (input : Input) (name : String) : Prop :=
  match input with
  | .parameter index =>
    ∃ digits, name = parameterInput ++ digits ∧ Text.readUnsigned digits.toList = some index
  | .slot index =>
    ∃ digits, name = fieldInput ++ digits ∧ Text.readUnsigned digits.toList = some index

theorem after?_eq_some (start name : String) (rest : List Char)
    (h : after? start.toList name.toList = some rest) :
    ∃ digits, name = start ++ digits ∧ digits.toList = rest := by
  unfold after? at h
  split at h
  · next hp =>
    cases h
    refine ⟨String.ofList (name.toList.drop start.toList.length), ?_, String.toList_ofList⟩
    rw [← String.toList_inj, String.toList_append, String.toList_ofList]
    exact (List.prefix_iff_eq_append.mp (List.isPrefixOf_iff_prefix.mp hp)).symm
  · cases h

theorem input?_eq_some (name : String) (input : Input) :
    input? name = some input ↔ input.Named name := by
  constructor
  · intro h
    unfold input? at h
    split at h
    · next rest hrest =>
      obtain ⟨digits, hname, rfl⟩ := after?_eq_some _ _ _ hrest
      obtain ⟨index, hindex, rfl⟩ := Option.map_eq_some_iff.mp h
      exact ⟨digits, hname, hindex⟩
    · split at h
      · next rest hrest =>
        obtain ⟨digits, hname, rfl⟩ := after?_eq_some _ _ _ hrest
        obtain ⟨index, hindex, rfl⟩ := Option.map_eq_some_iff.mp h
        exact ⟨digits, hname, hindex⟩
      · cases h
  · intro h
    cases input with
    | parameter index =>
      obtain ⟨digits, rfl, hindex⟩ := h
      rw [input?, String.toList_append, after?_append]
      exact congrArg (Option.map Input.parameter) hindex
    | slot index =>
      obtain ⟨digits, rfl, hindex⟩ := h
      rw [input?, after?_parameterInput, String.toList_append, after?_append]
      exact congrArg (Option.map Input.slot) hindex

theorem orInvalid_eq_ok {α : Type} (name : String) (found : Option α) (value : α)
    (h : orInvalid name found = .ok value) : found = some value := by
  cases found with
  | none => cases h
  | some other =>
    cases h
    rfl

theorem require_eq_ok (element : Element) (key value : String) :
    require element key = .ok value ↔ element.attribute? key = some value := by
  unfold require
  cases element.attribute? key <;> simp

def stateBlock (endpoint field typeName : String) (count : Option Nat) (next : Nat) : Block :=
  match count with
  | none => .scalar (Header.fresh { number := next } endpoint field typeName)
  | some slots =>
    .object (Header.fresh { number := next } endpoint field typeName) (List.replicate slots none)

theorem loadState_eq_ok (element : Element) (next stop : Nat) (block : Block)
    (h : (loadState element).run next = (.ok block, stop)) :
    ∃ endpoint field typeName count, slotCount element = .ok count ∧
      addParameters element.children (stateBlock endpoint field typeName count next) =
        .ok block := by
  rw [loadState] at h
  obtain ⟨_, _, hname, h⟩ := run_bind_eq_ok _ _ _ _ _ h
  obtain ⟨endpoint, _, hendpoint, h⟩ := run_bind_eq_ok _ _ _ _ _ h
  obtain ⟨field, _, hfield, h⟩ := run_bind_eq_ok _ _ _ _ _ h
  obtain ⟨typeName, _, htype, h⟩ := run_bind_eq_ok _ _ _ _ _ h
  obtain ⟨count, _, hcount, h⟩ := run_bind_eq_ok _ _ _ _ _ h
  obtain rfl := (Prod.mk.inj hname).2
  obtain rfl := (Prod.mk.inj hendpoint).2
  obtain rfl := (Prod.mk.inj hfield).2
  obtain rfl := (Prod.mk.inj htype).2
  obtain rfl := (Prod.mk.inj hcount).2
  refine ⟨endpoint, field, typeName, count, (Prod.mk.inj hcount).1, ?_⟩
  cases count with
  | none =>
    obtain ⟨blank, _, hblank, h⟩ := run_bind_eq_ok _ _ _ _ _ h
    cases hblank
    exact (Prod.mk.inj h).1
  | some slots =>
    obtain ⟨blank, _, hblank, h⟩ := run_bind_eq_ok _ _ _ _ _ h
    cases hblank
    exact (Prod.mk.inj h).1

/-- What holds of a block and survives one more parameter holds once all of them are added. -/
theorem addParameters_keeps (p : Block → Prop)
    (hp : ∀ block name typeName, p block →
      p (block.mapHeader fun header => header.addParameter name typeName))
    (elements : List Element) (block loaded : Block) (hb : p block)
    (h : addParameters elements block = .ok loaded) : p loaded := by
  induction elements generalizing block with
  | nil =>
    cases h
    exact hb
  | cons element elements ih =>
    rw [addParameters] at h
    split at h
    · cases hn : require element "gql_name" with
      | error fault =>
        rw [hn] at h
        cases h
      | ok name =>
        cases ht : require element "gql_type" with
        | error fault =>
          rw [hn, ht] at h
          cases h
        | ok typeName =>
          rw [hn, ht] at h
          exact ih _ (hp block name typeName hb) h
    · exact ih block hb h

def plug (name : String) (plugged : Element) (block : Block) : Input → Load Block
  | .parameter index => do
    let value ← readValue plugged
    orInvalid name (block.bindAt? index (some value))
  | .slot index => do
    let child ← loadTree plugged
    match block.fillSlot index child with
    | .ok (_, filled) => return filled
    | .error _ => throw (invalidInput name)

def plugNamed (name : String) (plugged : Element) (block : Block) : Load Block := do
  plug name plugged block (← orInvalid name (input? name))

def loadInput (element : Element) (block : Block) : Load Block :=
  if element.name = "value" then do
    let name ← require element "name"
    match firstNamed "block" element.children with
    | none => return block
    | some plugged => plugNamed name plugged block
  else return block

theorem loadPlugged_eq (name : String) (elements : List Element) (block : Block) :
    loadPlugged name elements block =
      match firstNamed "block" elements with
      | none => pure block
      | some plugged => plugNamed name plugged block := by
  induction elements with
  | nil =>
    rw [loadPlugged]
    rfl
  | cons element elements ih =>
    obtain ⟨tag, attributes, children, text⟩ := element
    rw [loadPlugged, firstNamed, List.find?_cons, Element.name]
    by_cases htag : tag = "block"
    · have hb : (tag == "block") = true := beq_iff_eq.mpr htag
      simp only [if_pos htag, hb, plugNamed]
      apply bind_congr
      intro input
      cases input <;> rfl
    · have hb : (tag == "block") = false := beq_eq_false_iff_ne.mpr htag
      rw [if_neg htag, hb, ih]
      rfl

theorem loadInputs_cons (element : Element) (rest : List Element) (block : Block) :
    loadInputs (element :: rest) block = loadInput element block >>= loadInputs rest := by
  obtain ⟨tag, attributes, children, text⟩ := element
  rw [loadInputs, loadInput, Element.name]
  by_cases htag : tag = "value"
  · rw [if_pos htag, if_pos htag, bind_assoc]
    apply bind_congr
    intro name
    rw [loadPlugged_eq, Element.children]
  · rw [if_neg htag, if_neg htag, pure_bind]

theorem loadInputs_append (before after : List Element) (block : Block) :
    loadInputs (before ++ after) block = loadInputs before block >>= loadInputs after := by
  induction before generalizing block with
  | nil =>
    rw [List.nil_append, loadInputs, pure_bind]
  | cons element before ih =>
    rw [List.cons_append, loadInputs_cons, loadInputs_cons, bind_assoc]
    exact bind_congr fun mid => ih mid

theorem loadTree_of_state (e state : Element) (hn : e.name = "block")
    (hs : firstNamed "mutation" e.children = some state) :
    loadTree e = loadState state >>= loadInputs e.children := by
  obtain ⟨name, attributes, children, text⟩ := e
  rw [Element.name] at hn
  rw [Element.children] at hs
  subst hn
  rw [loadTree, hs]
  rfl

/-- Whatever loads is a block with a state inside, and the children are read into that state. -/
theorem loadTree_eq_ok (e : Element) (next : Nat) (loaded : Block)
    (h : ((loadTree e).run next).1 = .ok loaded) :
    ∃ state blank mid stop, e.name = "block" ∧ firstNamed "mutation" e.children = some state ∧
      (loadState state).run next = (.ok blank, mid) ∧
      (loadInputs e.children blank).run mid = (.ok loaded, stop) := by
  obtain ⟨name, attributes, children, text⟩ := e
  rw [loadTree] at h
  by_cases hn : name = "block"
  · simp only [hn, ne_eq, not_true_eq_false, if_false] at h
    cases hs : firstNamed "mutation" children with
    | none =>
      rw [hs] at h
      cases h
    | some state =>
      rw [hs] at h
      obtain ⟨blank, mid, hblank, hinputs⟩ := run_bind_eq_ok _ _ next _ loaded (Prod.ext h rfl)
      exact ⟨state, blank, mid, _, hn, hs, hblank, hinputs⟩
  · simp only [hn, ne_eq, not_false_eq_true, if_true] at h
    cases h

theorem run_plug_parameter (name : String) (plugged : Element) (block : Block) (index next : Nat) :
    (plug name plugged block (.parameter index)).run next =
      (match readValue plugged with
        | .ok value =>
          if index < block.header.parameters.length then
            .ok (block.mapHeader fun header => header.bind index (some value))
          else .error (invalidInput name)
        | .error fault => .error fault, next) := by
  rw [plug, run_bind, run_ofExcept]
  cases readValue plugged with
  | error fault => rfl
  | ok value =>
    simp only [run_ofExcept, Block.bindAt?]
    split <;> rfl

theorem run_plug_slot (name : String) (plugged : Element) (block : Block) (index next : Nat) :
    (plug name plugged block (.slot index)).run next =
      match (loadTree plugged).run next with
      | (.ok child, stop) =>
        (if index < block.slots.length then .ok (block.filled index child)
          else .error (invalidInput name), stop)
      | (.error fault, stop) => (.error fault, stop) := by
  rw [plug, run_bind]
  obtain ⟨result, stop⟩ := (loadTree plugged).run next
  cases result with
  | error fault => rfl
  | ok child =>
    by_cases h : index < block.slots.length
    · simp only [block.fillSlot_of_lt index child h, if_pos h]
      rfl
    · obtain ⟨cause, hc⟩ := block.fillSlot_of_ge index child (Nat.le_of_not_lt h)
      simp only [hc, if_neg h]
      rfl

end QueryBlocks.Document
