import QueryBlocks.Proofs.Block.Reading

/-!
# Numbers do not matter

Loads that start from different numbers go on in the same way. They fail with the same fault, or
they end with trees that differ in their identities at most.
-/

set_option autoImplicit false

namespace QueryBlocks

namespace Block

variable (block : Block)

theorem anonymous_addParameter (name typeName : String) :
    (block.mapHeader fun header => header.addParameter name typeName).anonymous =
      block.anonymous.mapHeader fun header => header.addParameter name typeName := by
  cases block <;> rfl

theorem anonymous_bind (index : Nat) (value : Option BoundValue) :
    (block.mapHeader fun header => header.bind index value).anonymous =
      block.anonymous.mapHeader fun header => header.bind index value := by
  cases block <;> rfl

theorem anonymous_filled (index : Nat) (child : Block) :
    (block.filled index child).anonymous = block.anonymous.filled index child.anonymous := by
  cases block with
  | scalar header => rfl
  | object header slots =>
    rw [filled, anonymous, anonymous, mapHeaders, mapHeaders, mapHeadersSlots_eq_map,
      mapHeadersSlots_eq_map, List.map_set]
    rfl

theorem parameters_renumbered (a b : Block) (h : a.Renumbered b) :
    a.header.parameters = b.header.parameters := by
  have hp : a.anonymous.header.parameters = b.anonymous.header.parameters :=
    congrArg (fun block => block.header.parameters) h
  rw [anonymous, anonymous, header_mapHeaders, header_mapHeaders] at hp
  exact hp

theorem emptied_anonymous : block.anonymous.emptied = block.emptied := by
  cases block with
  | scalar header => rfl
  | object header slots =>
    rw [anonymous, mapHeaders, mapHeadersSlots_eq_map, emptied, emptied, List.length_map]
    rfl

theorem emptied_renumbered (a b : Block) (h : a.Renumbered b) : a.emptied = b.emptied := by
  rw [← emptied_anonymous a, ← emptied_anonymous b, h]

theorem slots_length_renumbered (a b : Block) (h : a.Renumbered b) :
    a.slots.length = b.slots.length := by
  rw [← slots_length_emptied a, emptied_renumbered a b h, slots_length_emptied]

end Block

namespace Document

open Xml (Element)

inductive SameEnd : Except LoadError Block → Except LoadError Block → Prop where
  | loaded {a b : Block} (h : a.Renumbered b) : SameEnd (.ok a) (.ok b)
  | failed (fault : LoadError) : SameEnd (.error fault) (.error fault)

def InStep (first second : Load Block) : Prop :=
  ∀ start next, SameEnd (first.run start).1 (second.run next).1

theorem inStep_pure (a b : Block) (h : a.Renumbered b) : InStep (pure a) (pure b) :=
  fun _ _ => .loaded h

theorem inStep_throw (fault : LoadError) : InStep (throw fault) (throw fault) :=
  fun _ _ => .failed fault

theorem inStep_bind (first second : Load Block) (f g : Block → Load Block)
    (h : InStep first second) (hfg : ∀ a b, a.Renumbered b → InStep (f a) (g b)) :
    InStep (first >>= f) (second >>= g) := by
  intro start next
  have hs := h start next
  rw [run_bind, run_bind]
  generalize first.run start = left at hs ⊢
  generalize second.run next = right at hs ⊢
  obtain ⟨a, mid⟩ := left
  obtain ⟨b, stop⟩ := right
  cases hs with
  | loaded hsame => exact hfg _ _ hsame mid stop
  | failed fault => exact .failed fault

/-- What makes no block gives both loads the same. -/
theorem inStep_ofExcept {α : Type} (result : Except LoadError α) (f g : α → Load Block)
    (hfg : ∀ value, InStep (f value) (g value)) :
    InStep (liftM result >>= f) (liftM result >>= g) := by
  intro start next
  rw [run_bind, run_bind, run_ofExcept, run_ofExcept]
  cases result with
  | error fault => exact .failed fault
  | ok value => exact hfg value start next

theorem sameEnd_addParameters (elements : List Element) (a b : Block) (h : a.Renumbered b) :
    SameEnd (addParameters elements a) (addParameters elements b) := by
  induction elements generalizing a b with
  | nil => exact .loaded h
  | cons element elements ih =>
    rw [addParameters, addParameters]
    split
    · cases require element "gql_name" with
      | error fault => exact .failed fault
      | ok name =>
        cases require element "gql_type" with
        | error fault => exact .failed fault
        | ok typeName =>
          apply ih
          rw [Block.Renumbered, Block.anonymous_addParameter, Block.anonymous_addParameter, h]
    · exact ih a b h

theorem inStep_loadState (element : Element) : InStep (loadState element) (loadState element) := by
  have hp (a b : Block) (h : a.Renumbered b) : InStep (liftM (addParameters element.children a))
      (liftM (addParameters element.children b)) :=
    fun _ _ => sameEnd_addParameters element.children a b h
  unfold loadState
  refine inStep_ofExcept _ _ _ fun _ => ?_
  refine inStep_ofExcept _ _ _ fun endpoint => ?_
  refine inStep_ofExcept _ _ _ fun field => ?_
  refine inStep_ofExcept _ _ _ fun typeName => ?_
  refine inStep_ofExcept _ _ _ fun count => ?_
  cases count with
  | none => exact inStep_bind _ _ _ _ (fun _ _ => .loaded rfl) hp
  | some slots => exact inStep_bind _ _ _ _ (fun _ _ => .loaded rfl) hp

theorem inStep_plug (name : String) (plugged : Element) (a b : Block) (input : Input)
    (h : a.Renumbered b) (hp : InStep (loadTree plugged) (loadTree plugged)) :
    InStep (plug name plugged a input) (plug name plugged b input) := by
  cases input with
  | parameter index =>
    refine inStep_ofExcept _ _ _ fun value => ?_
    rw [Block.bindAt?, Block.bindAt?, Block.parameters_renumbered a b h]
    split
    · apply inStep_pure
      rw [Block.Renumbered, Block.anonymous_bind, Block.anonymous_bind, h]
    · exact inStep_throw _
  | slot index =>
    refine inStep_bind _ _ _ _ hp fun c d hcd => ?_
    have hl := Block.slots_length_renumbered a b h
    by_cases hi : index < b.slots.length
    · rw [a.fillSlot_of_lt index c (hl ▸ hi), b.fillSlot_of_lt index d hi]
      apply inStep_pure
      rw [Block.Renumbered, Block.anonymous_filled, Block.anonymous_filled, h, hcd]
    · have hi := Nat.le_of_not_lt hi
      obtain ⟨_, ha⟩ := a.fillSlot_of_ge index c (hl ▸ hi)
      obtain ⟨_, hb⟩ := b.fillSlot_of_ge index d hi
      rw [ha, hb]
      exact inStep_throw _

theorem inStep_plugNamed (name : String) (plugged : Element) (a b : Block) (h : a.Renumbered b)
    (hp : InStep (loadTree plugged) (loadTree plugged)) :
    InStep (plugNamed name plugged a) (plugNamed name plugged b) :=
  inStep_ofExcept _ _ _ fun input => inStep_plug name plugged a b input h hp

mutual

/-- The load of a tree does not depend on the number it starts from. -/
theorem inStep_loadTree (e : Element) : InStep (loadTree e) (loadTree e) := by
  match e with
  | .mk name attributes children text =>
    rw [loadTree]
    by_cases hn : name = "block"
    · simp only [hn, ne_eq, not_true_eq_false, if_false]
      cases firstNamed "mutation" children with
      | none => exact inStep_throw _
      | some state =>
        exact inStep_bind _ _ _ _ (inStep_loadState state) (inStep_loadInputs children)
    · simp only [hn, ne_eq, not_false_eq_true, if_true]
      exact inStep_throw _

theorem inStep_loadInputs (elements : List Element) (a b : Block) (h : a.Renumbered b) :
    InStep (loadInputs elements a) (loadInputs elements b) := by
  match elements with
  | [] => exact inStep_pure a b h
  | .mk name attributes children text :: rest =>
    rw [loadInputs, loadInputs]
    by_cases hn : name = "value"
    · rw [if_pos hn, if_pos hn]
      refine inStep_ofExcept _ _ _ fun input => ?_
      exact inStep_bind _ _ _ _ (inStep_loadPlugged input children a b h)
        (inStep_loadInputs rest)
    · rw [if_neg hn, if_neg hn]
      exact inStep_loadInputs rest a b h

theorem inStep_loadPlugged (input : String) (elements : List Element) (a b : Block)
    (h : a.Renumbered b) :
    InStep (loadPlugged input elements a) (loadPlugged input elements b) := by
  match elements with
  | [] => exact inStep_pure a b h
  | .mk name attributes children text :: rest =>
    by_cases hn : name = "block"
    · subst hn
      -- the plugged tree is loaded from different numbers, and is smaller
      have htree := inStep_loadTree (.mk "block" attributes children text)
      rw [loadPlugged_eq, loadPlugged_eq]
      exact inStep_plugNamed input _ a b h htree
    · rw [loadPlugged, loadPlugged, if_neg hn, if_neg hn]
      exact inStep_loadPlugged input rest a b h

end

def Succeeds (load : Load Block) (next : Nat) : Prop := ∃ block, (load.run next).1 = .ok block

theorem succeeds_bind (first : Load Block) (f : Block → Load Block) (next : Nat) :
    Succeeds (first >>= f) next ↔
      ∃ block mid, first.run next = (.ok block, mid) ∧ Succeeds (f block) mid := by
  constructor
  · rintro ⟨loaded, h⟩
    obtain ⟨block, mid, hfirst, hf⟩ :=
      run_bind_eq_ok first f next _ loaded (Prod.ext h rfl)
    exact ⟨block, mid, hfirst, loaded, congrArg Prod.fst hf⟩
  · rintro ⟨block, mid, hfirst, hf⟩
    rw [Succeeds, run_bind, hfirst]
    exact hf

theorem succeeds_ofExcept {α : Type} (result : Except LoadError α) (f : α → Load Block)
    (next : Nat) :
    Succeeds (liftM result >>= f) next ↔ ∃ value, result = .ok value ∧ Succeeds (f value) next := by
  rw [Succeeds, run_bind, run_ofExcept]
  cases result with
  | error fault => simp
  | ok value => simp [Succeeds]

theorem loaded_inStep (first second : Load Block) (h : InStep first second) (start next : Nat)
    (a : Block) (ha : (first.run start).1 = .ok a) :
    ∃ b, (second.run next).1 = .ok b ∧ a.Renumbered b := by
  have hs := h start next
  rw [ha] at hs
  generalize (second.run next).1 = result at hs ⊢
  cases hs with
  | loaded hsame => exact ⟨_, rfl, hsame⟩

/-- A tree that loads under some numbers loads under all, and every time as the same tree
up to identities. -/
theorem loadTree_again (e : Element) (start next : Nat) (a : Block)
    (ha : ((loadTree e).run start).1 = .ok a) :
    ∃ b, ((loadTree e).run next).1 = .ok b ∧ a.Renumbered b :=
  loaded_inStep _ _ (inStep_loadTree e) start next a ha

end Document

end QueryBlocks
