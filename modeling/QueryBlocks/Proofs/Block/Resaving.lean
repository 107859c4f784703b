import QueryBlocks.Proofs.Block.Loaded
import QueryBlocks.Proofs.Block.Persistence

/-!
# What loads can be saved again

Whatever a document looks like, a tree that is loaded from it has no more slots in a block than a
document may give, and values only where a document can address them. Such a tree is saved and
loaded again, and from the second save on the text stays the same.
-/

set_option autoImplicit false

namespace QueryBlocks

namespace Block

def Fits (block : Block) : Prop := block.slots.length ≤ maxSlots ∧ block.header.Addressable

def Storable (block : Block) : Prop := ∀ b ∈ block.preorder, b.Fits

theorem addressable_addParameter (header : Header) (name typeName : String)
    (h : header.Addressable) : (header.addParameter name typeName).Addressable := by
  intro index p hp hv
  rw [Header.addParameter, List.getElem?_append] at hp
  split at hp
  · exact h index p hp hv
  · -- the new parameter has no value
    have hm := List.mem_of_getElem? hp
    rw [List.mem_singleton] at hm
    subst hm
    cases hv

theorem addressable_bind (header : Header) (index : Nat) (value : Option BoundValue)
    (h : header.Addressable) (hi : index ≤ Text.maxUnsigned) :
    (header.bind index value).Addressable := by
  intro other p hp hv
  rw [Header.bind, List.getElem?_modify] at hp
  by_cases hother : index = other
  · exact hother ▸ hi
  · exact h other p (by simpa [hother] using hp) hv

end Block

namespace Document

open Xml (Element)

theorem addressable_fresh (id : BlockId) (endpoint field typeName : String) :
    (Header.fresh id endpoint field typeName).Addressable := by
  intro index p hp
  cases hp

theorem slotCount_le (element : Element) (count : Nat)
    (h : slotCount element = .ok (some count)) : count ≤ maxSlots := by
  rw [slotCount] at h
  cases ha : element.attribute? "gql_fields" with
  | none =>
    rw [ha] at h
    simp only [Except.ok.injEq] at h
    split at h
    · cases h
      decide
    · cases h
  | some value =>
    rw [ha] at h
    simp only [readSlotCount] at h
    cases hr : Text.readUnsigned value.toList with
    | none =>
      rw [hr] at h
      cases h
    | some read =>
      rw [hr] at h
      by_cases hle : read ≤ maxSlots
      · simp only [if_pos hle] at h
        cases h
        exact hle
      · simp only [if_neg hle] at h
        cases h

/-- A document gives a block no more slots than it may, and reaches no parameter past a word. -/
theorem keptByReading_fits : KeptByReading Block.Fits where
  state element next stop block h := by
    obtain ⟨endpoint, field, typeName, count, hslots, hadded⟩ :=
      loadState_eq_ok element next stop block h
    refine addParameters_keeps Block.Fits ?_ element.children _ block ?_ hadded
    · intro block name typeName hb
      cases block with
      | scalar header => exact ⟨hb.1, Block.addressable_addParameter header name typeName hb.2⟩
      | object header slots =>
        exact ⟨hb.1, Block.addressable_addParameter header name typeName hb.2⟩
    · cases count with
      | none => exact ⟨Nat.zero_le _, addressable_fresh _ _ _ _⟩
      | some slots =>
        refine ⟨?_, addressable_fresh _ _ _ _⟩
        change (List.replicate slots none).length ≤ maxSlots
        rw [List.length_replicate]
        exact slotCount_le element slots hslots
  value block index value hi hb := by
    cases block with
    | scalar header => exact ⟨hb.1, Block.addressable_bind header index value hb.2 hi⟩
    | object header slots => exact ⟨hb.1, Block.addressable_bind header index value hb.2 hi⟩
  child block index child hb := by
    cases block with
    | scalar header => exact hb
    | object header slots =>
      refine ⟨?_, hb.2⟩
      change (slots.set index (some child)).length ≤ maxSlots
      rw [List.length_set]
      exact hb.1

mutual

/-- A document says nothing of identities, states and descriptions. -/
theorem ofTree_bare (block : Block) : ofTree block.bare = ofTree block := by
  match block with
  | .scalar header => rfl
  | .object header slots =>
    have hl : (Block.mapHeadersSlots (fun _ header => header.bare) slots).length =
        slots.length := by
      rw [Block.mapHeadersSlots_eq_map, List.length_map]
    rw [Block.bare, Block.mapHeaders, ofTree, ofTree, hl, ofSlots_bare 0 slots]
    rfl

theorem ofSlots_bare (index : Nat) (slots : List (Option Block)) :
    ofSlots index (Block.mapHeadersSlots (fun _ header => header.bare) slots) =
      ofSlots index slots := by
  match slots with
  | [] => rfl
  | none :: rest => exact ofSlots_bare (index + 1) rest
  | some child :: rest =>
    have hc := ofTree_bare child
    rw [Block.bare] at hc
    rw [Block.mapHeadersSlots, ofSlots, ofSlots, hc, ofSlots_bare (index + 1) rest]

end

end Document

namespace Block

theorem toTreeText_alike (a b : Block) (h : a.Alike b) : a.toTreeText = b.toTreeText := by
  rw [toTreeText, toTreeText, ← Document.ofTree_bare a, ← Document.ofTree_bare b]
  exact congrArg (fun block => (Document.ofTree block).toText) h

theorem storable_ofTreeText (text : String) (start stop : Nat) (tree : Block)
    (h : (ofTreeText text).run start = (.ok tree, stop)) : tree.Storable :=
  Document.each_ofTreeText Document.keptByReading_fits text start stop tree h

/-- A tree loaded from any text whatever has no block with more slots than a document may give.
It is saved and loaded again, under new identities, as a tree alike to it, and that tree has the
same text as the first. -/
theorem toTreeText_stable (text : String) (start stop : Nat) (tree : Block)
    (h : (ofTreeText text).run start = (.ok tree, stop)) :
    (∀ b ∈ tree.preorder, b.slots.length ≤ maxSlots) ∧
    ∀ next, ∃ again, ((ofTreeText tree.toTreeText).run next).1 = .ok again ∧
      tree.Alike again ∧ again.toTreeText = tree.toTreeText := by
  have hs := storable_ofTreeText text start stop tree h
  have hslots : ∀ b ∈ tree.preorder, b.slots.length ≤ maxSlots := fun b hb => (hs b hb).1
  refine ⟨hslots, ?_⟩
  intro next
  have hl := Document.run_loadTree_renewed tree next (fun b hb => (hs b hb).2) hslots
  refine ⟨(renewed next tree).1, ?_, alike_renewed next tree, ?_⟩
  · rw [run_ofTreeText_toTreeText, hl]
  · exact (toTreeText_alike _ _ (alike_renewed next tree)).symm

/-- Written by hand: without a type on the block, a number of slots against the word scalar,
and a child in a slot that is named with a leading zero. -/
def handwrittenText : String :=
  "<block>\n<mutation gql_url='u' gql_name='a' gql_type='T' gql_scalar='true' gql_fields='+2'/>" ++
    "<value name='GQL_FIELD01'><block><mutation gql_url='' gql_name='b' gql_type=''/></block>" ++
    "</value></block>"

def resavedText : String :=
  "<block type=\"gql\"><mutation gql_url=\"u\" gql_name=\"a\" gql_type=\"T\"" ++
    " gql_scalar=\"false\" gql_fields=\"2\"/>" ++
    "<value name=\"GQL_FIELD1\"><block type=\"gql\"><mutation gql_url=\"\" gql_name=\"b\"" ++
    " gql_type=\"\" gql_scalar=\"true\"/></block></value></block>"

private theorem loaded_of_saved (outcome : Except LoadError Block × Nat) (saved : String)
    (h : outcome.1.toOption.map toTreeText = some saved) :
    ∃ tree stop, outcome = (.ok tree, stop) ∧ tree.toTreeText = saved := by
  obtain ⟨result, stop⟩ := outcome
  cases result with
  | error cause => cases h
  | ok tree => exact ⟨tree, stop, rfl, Option.some.inj h⟩

/-- The hand-written text loads, is saved in the program's own spelling, and then keeps that
text. -/
theorem toTreeText_stable_handwrittenText :
    ∃ tree stop, (ofTreeText handwrittenText).run 1 = (.ok tree, stop) ∧
      tree.toTreeText = resavedText ∧
      (∀ b ∈ tree.preorder, b.slots.length ≤ maxSlots) ∧
      ∀ next, ∃ again, ((ofTreeText tree.toTreeText).run next).1 = .ok again ∧
        tree.Alike again ∧ again.toTreeText = tree.toTreeText := by
  obtain ⟨tree, stop, hload, htext⟩ :=
    loaded_of_saved ((ofTreeText handwrittenText).run 1) resavedText (by decide +kernel)
  exact ⟨tree, stop, hload, htext, toTreeText_stable handwrittenText 1 stop tree hload⟩

end Block

end QueryBlocks
