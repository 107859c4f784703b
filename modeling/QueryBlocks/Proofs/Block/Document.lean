import QueryBlocks.Block.Document
import QueryBlocks.Proofs.Block.Likeness
import QueryBlocks.Proofs.Block.Numbering
import QueryBlocks.Proofs.Number.RoundTrip
import QueryBlocks.Proofs.Text.Unsigned
import QueryBlocks.Proofs.Xml.Elements

/-!
# Reading the elements of a tree

What is read from the elements of parameters, values, inputs and whole blocks. Inputs are
read into a block whose first parameters or slots already hold what was written and whose
others are still as the block's own state left them.
-/

set_option autoImplicit false

namespace QueryBlocks.Document

open Xml (Element)

theorem plainTag_of_keys (name : String) (attributes : Xml.Attributes) (keys : List String)
    (hk : attributes.map Prod.fst = keys) (hn : Xml.PlainName name.toList)
    (hp : ∀ key ∈ keys, Xml.PlainName key.toList) (hd : keys.Nodup) :
    Xml.PlainTag name attributes := by
  refine ⟨hn, fun entry he => hp entry.1 ?_, hk ▸ hd⟩
  rw [← hk]
  exact List.mem_map_of_mem he

theorem readable_ofParameter (p : Parameter) : (ofParameter p).Readable :=
  ⟨plainTag_of_keys _ _ ["gql_name", "gql_type"] rfl (by decide) (by decide) (by decide),
    Or.inl rfl, trivial⟩

theorem readable_ofParameterList (ps : List Parameter) :
    Element.AllReadable (ps.map ofParameter) := by
  induction ps with
  | nil => trivial
  | cons p ps ih => exact ⟨readable_ofParameter p, ih⟩

theorem readable_ofHeader (header : Header) (slotCount : Option Nat) :
    (ofHeader header slotCount).Readable := by
  refine ⟨?_, Or.inl rfl, readable_ofParameterList _⟩
  cases slotCount with
  | none =>
    exact plainTag_of_keys _ _ ["gql_url", "gql_name", "gql_type", "gql_scalar"] rfl
      (by decide) (by decide) (by decide)
  | some count =>
    exact plainTag_of_keys _ _ ["gql_url", "gql_name", "gql_type", "gql_scalar", "gql_fields"] rfl
      (by decide) (by decide) (by decide)

theorem readable_plugBlock (type field text : String) : (plugBlock type field text).Readable :=
  ⟨plainTag_of_keys _ _ ["type"] rfl (by decide) (by decide) (by decide), Or.inl rfl,
    ⟨plainTag_of_keys _ _ ["name"] rfl (by decide) (by decide) (by decide), Or.inr (Or.inl rfl),
      trivial⟩, trivial⟩

theorem readable_ofValue (value : BoundValue) : (ofValue value).Readable := by
  cases value with
  | text value => exact readable_plugBlock _ _ _
  | number value => exact readable_plugBlock _ _ _
  | boolean value => exact readable_plugBlock _ _ _
  | enum name => exact readable_plugBlock _ _ _

theorem readable_input (kind : String) (index : Nat) (plugged : Element) (h : plugged.Readable) :
    (input kind index plugged).Readable :=
  ⟨plainTag_of_keys _ _ ["name"] rfl (by decide) (by decide) (by decide), Or.inl rfl, h, trivial⟩

theorem allReadable_append (a b : List Element) :
    Element.AllReadable (a ++ b) ↔ Element.AllReadable a ∧ Element.AllReadable b := by
  induction a with
  | nil => simp [Element.AllReadable]
  | cons e a ih => simp [Element.AllReadable, ih, and_assoc]

theorem readable_ofParameters (index : Nat) (ps : List Parameter) :
    Element.AllReadable (ofParameters index ps) := by
  induction ps generalizing index with
  | nil => trivial
  | cons p ps ih =>
    rw [ofParameters]
    split
    · exact ⟨readable_input _ _ _ (readable_ofValue _), ih _⟩
    · exact ih _

mutual

theorem readable_ofTree (block : Block) : (ofTree block).Readable := by
  match block with
  | .scalar header =>
    exact ⟨plainTag_of_keys _ _ ["type"] rfl (by decide) (by decide) (by decide), Or.inl rfl,
      readable_ofHeader _ _, readable_ofParameters _ _⟩
  | .object header slots =>
    exact ⟨plainTag_of_keys _ _ ["type"] rfl (by decide) (by decide) (by decide), Or.inl rfl,
      readable_ofHeader _ _,
      (allReadable_append _ _).mpr ⟨readable_ofParameters _ _, readable_ofSlots 0 slots⟩⟩

theorem readable_ofSlots (index : Nat) (slots : List (Option Block)) :
    Element.AllReadable (ofSlots index slots) := by
  match slots with
  | [] => trivial
  | none :: rest => exact readable_ofSlots (index + 1) rest
  | some child :: rest =>
    exact ⟨readable_input _ _ _ (readable_ofTree child), readable_ofSlots (index + 1) rest⟩

end

theorem root_toText (e : Element) (h : e.Readable) : root e.toText = .ok e := by
  rw [root, Xml.parse_write e h]

theorem readValue_ofValue (value : BoundValue) : readValue (ofValue value) = .ok value := by
  cases value with
  | text value => rfl
  | number value =>
    change readNumber value.toString = _
    rw [readNumber, Binary64.ofString?_toString]
  | boolean value => cases value <;> rfl
  | enum name => rfl

theorem after?_append (start rest : List Char) : after? start (start ++ rest) = some rest := by
  have hp : start.isPrefixOf (start ++ rest) = true :=
    List.isPrefixOf_iff_prefix.mpr (List.prefix_append _ _)
  rw [after?, if_pos hp, List.drop_left]

theorem readUnsigned_toString (index : Nat) (h : index ≤ Text.maxUnsigned) :
    Text.readUnsigned (toString index).toList = some index := by
  rw [Nat.toString_eq_repr, Nat.toList_repr, Text.readUnsigned_toDigits, if_pos h]

theorem input?_parameter (index : Nat) (h : index ≤ Text.maxUnsigned) :
    input? (parameterInput ++ toString index) = some (.parameter index) := by
  rw [input?, String.toList_append, after?_append]
  exact congrArg (Option.map Input.parameter) (readUnsigned_toString index h)

/-- No name of a slot begins like the name of a parameter. -/
theorem after?_parameterInput (digits : String) :
    after? parameterInput.toList (fieldInput ++ digits).toList = none := by
  rw [String.toList_append]
  exact if_neg (by simp [parameterInput, fieldInput, List.isPrefixOf])

theorem input?_slot (index : Nat) (h : index ≤ Text.maxUnsigned) :
    input? (fieldInput ++ toString index) = some (.slot index) := by
  rw [input?, after?_parameterInput, String.toList_append, after?_append]
  exact congrArg (Option.map Input.slot) (readUnsigned_toString index h)

def unbound (p : Parameter) : Parameter := { p with value := none }

def blankOf (header : Header) (slotCount : Option Nat) (next : Nat) : Block :=
  let blank := { header.renewed next with parameters := header.parameters.map unbound }
  match slotCount with
  | none => .scalar blank
  | some count => .object blank (List.replicate count none)

theorem addParameters_ofParameter (ps : List Parameter) (block : Block) :
    addParameters (ps.map ofParameter) block =
      .ok (block.mapHeader fun header =>
        { header with parameters := header.parameters ++ ps.map unbound }) := by
  induction ps generalizing block with
  | nil => cases block <;> simp [addParameters, Block.mapHeader]
  | cons p ps ih =>
    change addParameters (ps.map ofParameter)
      (block.mapHeader fun header => header.addParameter p.name p.typeName) = _
    rw [ih]
    cases block <;> simp [Block.mapHeader, Header.addParameter, unbound]

theorem readSlotCount_toString (count : Nat) :
    readSlotCount (toString count) = if count ≤ maxSlots then .ok count
      else .error (.invalidAttribute "gql_fields" (toString count)) := by
  have hw : maxSlots ≤ Text.maxUnsigned := by decide
  rw [readSlotCount, Nat.toString_eq_repr, Nat.toList_repr, Text.readUnsigned_toDigits]
  by_cases h : count ≤ maxSlots
  · rw [if_pos (Nat.le_trans h hw)]
  · rw [if_neg h]
    by_cases hu : count ≤ Text.maxUnsigned
    · rw [if_pos hu]
      exact if_neg h
    · rw [if_neg hu]

/-- The slot count that is read decides between an object, a scalar and a fault. -/
theorem run_loadState (header : Header) (count : Option Nat) (next : Nat) :
    (loadState (ofHeader header count)).run next =
      match slotCount (ofHeader header count) with
      | .ok read => (.ok (blankOf header read next), next + 1)
      | .error fault => (.error fault, next) := by
  cases hs : slotCount (ofHeader header count) with
  | error fault =>
    unfold loadState
    rw [hs]
    rfl
  | ok read =>
    cases read with
    | none =>
      have hl : (loadState (ofHeader header count)).run next =
          (addParameters (header.parameters.map ofParameter)
            (.scalar (Header.fresh { number := next } header.endpoint header.field
              header.typeName)), next + 1) := by
        unfold loadState
        rw [hs]
        rfl
      rw [hl, addParameters_ofParameter]
      rfl
    | some slots =>
      have hl : (loadState (ofHeader header count)).run next =
          (addParameters (header.parameters.map ofParameter)
            (.object (Header.fresh { number := next } header.endpoint header.field header.typeName)
              (List.replicate slots none)), next + 1) := by
        unfold loadState
        rw [hs]
        rfl
      rw [hl, addParameters_ofParameter]
      rfl

theorem slotCount_ofHeader (header : Header) (count : Option Nat) :
    slotCount (ofHeader header count) =
      match count with
      | none => .ok none
      | some slots => if slots ≤ maxSlots then .ok (some slots)
          else .error (.invalidAttribute "gql_fields" (toString slots)) := by
  cases count with
  | none => rfl
  | some slots =>
    change (readSlotCount (toString slots)).map some = _
    rw [readSlotCount_toString]
    by_cases h : slots ≤ maxSlots
    · rw [if_pos h]
      exact (if_pos h).symm
    · rw [if_neg h]
      exact (if_neg h).symm

theorem loadInputs_other (name : String) (attributes : Xml.Attributes) (children : List Element)
    (text : String) (rest : List Element) (block : Block) (h : name ≠ "value") :
    loadInputs (.mk name attributes children text :: rest) block = loadInputs rest block := by
  rw [loadInputs, if_neg h]

theorem loadInputs_input (kind : String) (index : Nat) (plugged : Element) (rest : List Element)
    (block : Block) :
    loadInputs (input kind index plugged :: rest) block =
      loadPlugged (kind ++ toString index) [plugged] block >>= loadInputs rest := by
  rw [input, loadInputs, if_pos rfl]
  rfl

theorem loadPlugged_block (name : String) (attributes : Xml.Attributes) (children : List Element)
    (text : String) (block : Block) :
    loadPlugged name [.mk "block" attributes children text] block = (do
      match ← orInvalid name (input? name) with
      | .parameter index =>
        let value ← readValue (.mk "block" attributes children text)
        orInvalid name (block.bindAt? index (some value))
      | .slot index =>
        let child ← loadTree (.mk "block" attributes children text)
        match block.fillSlot index child with
        | .ok (_, filled) => return filled
        | .error _ => throw (invalidInput name)) := by
  unfold loadPlugged
  exact if_pos rfl

theorem ofValue_eq (value : BoundValue) :
    ∃ attributes children, ofValue value = .mk "block" attributes children "" := by
  cases value with
  | text value => exact ⟨_, _, rfl⟩
  | number value => exact ⟨_, _, rfl⟩
  | boolean value => exact ⟨_, _, rfl⟩
  | enum name => exact ⟨_, _, rfl⟩

theorem ofTree_eq (block : Block) :
    ∃ attributes children, ofTree block = .mk "block" attributes children "" := by
  cases block with
  | scalar header => exact ⟨_, _, rfl⟩
  | object header slots => exact ⟨_, _, rfl⟩

/-- A bound parameter's input binds the parameter of its index. -/
theorem loadPlugged_parameter (index : Nat) (value : BoundValue) (block bound : Block)
    (hi : index ≤ Text.maxUnsigned) (hb : block.bindAt? index (some value) = some bound) :
    loadPlugged (parameterInput ++ toString index) [ofValue value] block = pure bound := by
  have hv := readValue_ofValue value
  obtain ⟨attributes, children, he⟩ := ofValue_eq value
  rw [he] at hv ⊢
  rw [loadPlugged_block, input?_parameter index hi]
  change (do
    let value ← readValue (.mk "block" attributes children "")
    orInvalid _ (block.bindAt? index (some value)) : Load Block) = _
  rw [hv]
  change (orInvalid _ (block.bindAt? index (some value)) : Load Block) = _
  rw [hb]
  rfl

/-- A filled slot's input loads the tree below it and puts it into the slot of its index. -/
theorem loadPlugged_slot (index : Nat) (child : Block) (header : Header)
    (slots : List (Option Block)) (hi : index ≤ Text.maxUnsigned) (held : Option Block)
    (hs : slots[index]? = some held) :
    loadPlugged (fieldInput ++ toString index) [ofTree child] (.object header slots) =
      (do return .object header (slots.set index (some (← loadTree (ofTree child))))) := by
  obtain ⟨attributes, children, he⟩ := ofTree_eq child
  rw [he, loadPlugged_block, input?_slot index hi]
  change (loadTree (.mk "block" attributes children "") >>= fun child =>
    match (Block.object header slots).fillSlot index child with
    | .ok (_, filled) => return filled
    | .error _ => throw (invalidInput _) : Load Block) = _
  have hf : ∀ child, (Block.object header slots).fillSlot index child =
      .ok (held, .object header (slots.set index (some child))) := by
    intro child
    rw [Block.fillSlot, Block.withSlots, hs]
    rfl
  simp only [hf]

end QueryBlocks.Document
