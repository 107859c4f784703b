import QueryBlocks.Proofs.Block.Document
import QueryBlocks.Proofs.Block.Places

/-!
# What the inputs of a block hold

A block is what is left of it once its inputs are emptied, together with what each input holds.
Binding a parameter and filling a slot change what one input holds and nothing else.
-/

set_option autoImplicit false

namespace QueryBlocks

def Header.anonymous (header : Header) : Header := { header with id := { number := 0 } }

def Header.emptied (header : Header) : Header :=
  { header.anonymous with parameters := header.parameters.map Document.unbound }

namespace Block

def anonymous (block : Block) : Block := block.mapHeaders fun _ header => header.anonymous

/-- Two trees are the same, except that their blocks may have other identities. -/
def Renumbered (a b : Block) : Prop := a.anonymous = b.anonymous

def value? (block : Block) (index : Nat) : Option BoundValue :=
  block.header.parameters[index]?.bind Parameter.value

def emptied : Block → Block
  | .scalar header => .scalar header.emptied
  | .object header slots => .object header.emptied (List.replicate slots.length none)

def filled (block : Block) (index : Nat) (child : Block) : Block :=
  match block with
  | .scalar header => .scalar header
  | .object header slots => .object header (slots.set index (some child))

variable (block : Block) (index : Nat)

theorem fillSlot_of_lt (child : Block) (h : index < block.slots.length) :
    block.fillSlot index child = .ok (block.child? index, block.filled index child) := by
  cases block with
  | scalar header => cases h
  | object header slots =>
    have hs : slots[index]? = some slots[index] := List.getElem?_eq_getElem h
    rw [fillSlot, withSlots, child?, Block.slots, hs]
    rfl

theorem fillSlot_of_ge (child : Block) (h : block.slots.length ≤ index) :
    ∃ cause, block.fillSlot index child = .error cause := by
  cases block with
  | scalar header => exact ⟨_, rfl⟩
  | object header slots =>
    have hs : slots[index]? = none := List.getElem?_eq_none h
    rw [fillSlot, withSlots, hs]
    exact ⟨_, rfl⟩

theorem parameters_bind (value : Option BoundValue) :
    (block.mapHeader fun header => header.bind index value).header.parameters =
      block.header.parameters.modify index fun p => { p with value } := by
  cases block <;> rfl

theorem emptied_bind (value : Option BoundValue) :
    (block.mapHeader fun header => header.bind index value).emptied = block.emptied := by
  have hp : (block.header.bind index value).parameters.map Document.unbound =
      block.header.parameters.map Document.unbound := by
    apply List.ext_getElem?
    intro other
    rw [Header.bind, List.getElem?_map, List.getElem?_map, List.getElem?_modify]
    cases block.header.parameters[other]? with
    | none => rfl
    | some p => by_cases ho : index = other <;> simp [ho, Document.unbound]
  have hh : (block.header.bind index value).emptied = block.header.emptied := by
    rw [Header.emptied, hp]
    rfl
  cases block with
  | scalar header => exact congrArg Block.scalar hh
  | object header slots => exact congrArg (fun h => Block.object h _) hh

theorem value?_bind (value : Option BoundValue) (h : index < block.header.parameters.length) :
    (block.mapHeader fun header => header.bind index value).value? index = value := by
  rw [value?, parameters_bind, List.getElem?_modify_eq, List.getElem?_eq_getElem h]
  rfl

theorem value?_bind_ne (value : Option BoundValue) (other : Nat) (h : index ≠ other) :
    (block.mapHeader fun header => header.bind index value).value? other = block.value? other := by
  rw [value?, parameters_bind, List.getElem?_modify_ne _ _ h, value?]

theorem child?_bind (value : Option BoundValue) (other : Nat) :
    (block.mapHeader fun header => header.bind index value).child? other = block.child? other := by
  cases block <;> rfl

theorem emptied_filled (child : Block) : (block.filled index child).emptied = block.emptied := by
  cases block with
  | scalar header => rfl
  | object header slots => rw [filled, emptied, emptied, List.length_set]

theorem value?_filled (child : Block) (other : Nat) :
    (block.filled index child).value? other = block.value? other := by
  cases block <;> rfl

theorem child?_filled (child : Block) (h : index < block.slots.length) :
    (block.filled index child).child? index = some child := by
  cases block with
  | scalar header => cases h
  | object header slots =>
    have hl : index < slots.length := h
    rw [filled, child?, Block.slots, List.getElem?_set_self hl]
    rfl

theorem child?_filled_ne (child : Block) (other : Nat) (h : index ≠ other) :
    (block.filled index child).child? other = block.child? other := by
  cases block with
  | scalar header => rfl
  | object header slots =>
    rw [filled, child?, child?, Block.slots, Block.slots, List.getElem?_set_ne h]

theorem parameters_length_emptied :
    block.emptied.header.parameters.length = block.header.parameters.length := by
  cases block <;> exact List.length_map _

theorem slots_length_emptied : block.emptied.slots.length = block.slots.length := by
  cases block with
  | scalar header => rfl
  | object header slots => exact List.length_replicate

theorem parameter_eq (p q : Parameter) (hu : Document.unbound p = Document.unbound q)
    (hv : p.value = q.value) : p = q := by
  cases p
  cases q
  simp_all [Document.unbound]

theorem parameters_eq (a b : List Parameter) (hu : a.map Document.unbound = b.map Document.unbound)
    (hv : ∀ i : Nat, a[i]?.bind Parameter.value = b[i]?.bind Parameter.value) : a = b := by
  have hl : a.length = b.length := by simpa using congrArg List.length hu
  apply List.ext_getElem hl
  intro i hi hi'
  apply parameter_eq
  · have hp := congrArg (fun parameters => parameters[i]?) hu
    simpa [hi, hi'] using hp
  · simpa [hi, hi'] using hv i

theorem anonymous_header (a b : Header) (he : a.emptied = b.emptied)
    (hv : ∀ i : Nat, a.parameters[i]?.bind Parameter.value =
      b.parameters[i]?.bind Parameter.value) : a.anonymous = b.anonymous := by
  have hp := parameters_eq a.parameters b.parameters (congrArg Header.parameters he) hv
  cases a
  cases b
  simp_all [Header.emptied, Header.anonymous]

theorem anonymous_slots (a b : List (Option Block)) (hl : a.length = b.length)
    (hc : ∀ i : Nat, a[i]?.join.map anonymous = b[i]?.join.map anonymous) :
    a.map (Option.map anonymous) = b.map (Option.map anonymous) := by
  apply List.ext_getElem (by simpa using hl)
  intro i hi hi'
  have hi : i < a.length := by simpa using hi
  have hi' : i < b.length := by simpa using hi'
  simpa [hi, hi'] using hc i

theorem renumbered_of_inputs (a b : Block) (he : a.emptied = b.emptied)
    (hv : ∀ i, a.value? i = b.value? i)
    (hc : ∀ i, (a.child? i).map anonymous = (b.child? i).map anonymous) : a.Renumbered b := by
  cases a with
  | scalar header =>
    cases b with
    | scalar other =>
      exact congrArg Block.scalar (anonymous_header header other (Block.scalar.inj he) hv)
    | object other slots => cases he
  | object header slots =>
    cases b with
    | scalar other => cases he
    | object other others =>
      obtain ⟨hh, hs⟩ := Block.object.inj he
      have hl : slots.length = others.length := by simpa using congrArg List.length hs
      rw [Renumbered, anonymous, anonymous, mapHeaders, mapHeaders, mapHeadersSlots_eq_map,
        mapHeadersSlots_eq_map]
      exact congrArg₂ Block.object (anonymous_header header other hh hv)
        (anonymous_slots slots others hl hc)

end Block

end QueryBlocks
