import QueryBlocks.Proofs.Block.Document
import QueryBlocks.Proofs.Block.Slots

/-!
# Trees survive being saved and loaded

A saved tree loads exactly when no object block in it has more slots than a document may
give, and then the loaded tree is alike to the saved one. The first block in preorder that
has too many slots is the one that is refused.
-/

set_option autoImplicit false

namespace QueryBlocks

def Header.Addressable (header : Header) : Prop :=
  ∀ index p, header.parameters[index]? = some p → p.value.isSome = true →
    index ≤ Text.maxUnsigned

namespace Block

/-- The parameters of every block can be counted in a word, as those of a list in memory are. -/
def Countable (block : Block) : Prop :=
  ∀ b ∈ block.preorder, b.header.parameters.length ≤ Text.maxUnsigned

def Addressable (block : Block) : Prop := ∀ b ∈ block.preorder, b.header.Addressable

theorem addressable_of_countable (block : Block) (h : block.Countable) : block.Addressable := by
  intro b hb index p hp _
  have hi := (List.getElem?_eq_some_iff.mp hp).1
  exact Nat.le_of_lt (Nat.lt_of_lt_of_le hi (h b hb))

def isOverfull (block : Block) : Bool := decide (maxSlots < block.slots.length)

def slotFault (block : Block) : LoadError :=
  .invalidAttribute "gql_fields" (toString block.slots.length)

end Block

namespace Document

open Xml (Element)

theorem loadTree_block (attributes : Xml.Attributes) (state : Element) (rest : List Element)
    (hs : state.name = "mutation") :
    loadTree (.mk "block" attributes (state :: rest) "") = loadState state >>= loadInputs rest := by
  obtain ⟨name, stateAttributes, children, text⟩ := state
  subst hs
  rw [loadTree]
  change (loadState _ >>= fun block => loadInputs (Element.mk "mutation" _ _ _ :: rest) block) = _
  simp only [loadInputs_other "mutation" _ _ _ rest _ (by decide)]

theorem bindAt?_middle (block : Block) (before after : List Parameter) (p : Parameter)
    (value : Option BoundValue) (hp : block.header.parameters = before ++ p :: after) :
    block.bindAt? before.length value = some (block.mapHeader fun header =>
      { header with parameters := before ++ { p with value } :: after }) := by
  have hl : before.length < block.header.parameters.length := by simp [hp]
  have hm := modify_around before after p fun q => { q with value }
  rw [← hp] at hm
  rw [Block.bindAt?, if_pos hl]
  cases block with
  | scalar header =>
    exact congrArg (fun ps => some (Block.scalar { header with parameters := ps })) hm
  | object header slots =>
    exact congrArg (fun ps => some (Block.object { header with parameters := ps } slots)) hm

theorem mapHeader_parameters (block : Block) (ps qs : List Parameter) :
    (block.mapHeader fun header => { header with parameters := ps }).mapHeader
        (fun header => { header with parameters := qs }) =
      block.mapHeader fun header => { header with parameters := qs } := by
  cases block <;> rfl

theorem header_mapHeader (block : Block) (f : Header → Header) :
    (block.mapHeader f).header = f block.header := by
  cases block <;> rfl

theorem mapHeader_self (block : Block) (ps : List Parameter) (h : block.header.parameters = ps) :
    (block.mapHeader fun header => { header with parameters := ps }) = block := by
  subst h
  cases block <;> rfl

/-- The inputs of the bound parameters bind each parameter to its value; the others stay
unbound. -/
theorem loadInputs_ofParameters (done ps : List Parameter) (rest : List Element) (block : Block)
    (hp : block.header.parameters = done ++ ps.map unbound)
    (hl : ∀ index p, ps[index]? = some p → p.value.isSome = true →
      done.length + index ≤ Text.maxUnsigned) :
    loadInputs (ofParameters done.length ps ++ rest) block =
      loadInputs rest (block.mapHeader fun header => { header with parameters := done ++ ps }) := by
  induction ps generalizing done block with
  | nil =>
    rw [List.map_nil] at hp
    rw [mapHeader_self block _ hp]
    rfl
  | cons p ps ih =>
    have hn : (done ++ [p]).length = done.length + 1 := by simp
    have hs : ∀ index q, ps[index]? = some q → q.value.isSome = true →
        (done ++ [p]).length + index ≤ Text.maxUnsigned := by
      intro index q hq hv
      have hi := hl (index + 1) q hq hv
      omega
    have hc : done ++ p :: ps = done ++ [p] ++ ps := by simp
    rw [ofParameters, hc]
    cases hv : p.value with
    | none =>
      have hu : unbound p = p := by
        rw [unbound, ← hv]
      rw [List.map_cons, hu] at hp
      rw [← hn]
      exact ih (done ++ [p]) block (by rw [hp, List.append_assoc, List.singleton_append]) hs
    | some value =>
      have hu : ({ unbound p with value := some value } : Parameter) = p := by
        rw [← hv]
        rfl
      have hi : done.length ≤ Text.maxUnsigned := hl 0 p rfl (by rw [hv]; rfl)
      have hb := bindAt?_middle block done (ps.map unbound) (unbound p) (some value) hp
      rw [hu] at hb
      rw [List.cons_append, loadInputs_input,
        loadPlugged_parameter done.length value block _ hi hb, pure_bind, ← hn,
        ih (done ++ [p]) _ (by rw [header_mapHeader]; simp) hs, mapHeader_parameters]

theorem run_loadTree_scalar (header : Header) (next : Nat)
    (hc : header.Addressable) :
    (loadTree (ofTree (.scalar header))).run next =
      (.ok (.scalar (header.renewed next)), next + 1) := by
  have hp := loadInputs_ofParameters [] header.parameters [] (blankOf header none next) rfl
    (by simpa [Header.Addressable] using hc)
  rw [List.append_nil] at hp
  rw [ofTree, loadTree_block _ _ _ rfl, run_bind, run_loadState, slotCount_ofHeader]
  change (loadInputs (ofParameters 0 header.parameters) (blankOf header none next)).run
    (next + 1) = _
  exact congrArg (fun load : Load Block => load.run (next + 1)) hp

/-- An object block that is not overfull: what remains to be read is what its slots hold. -/
theorem run_loadTree_object (header : Header) (slots : List (Option Block)) (next : Nat)
    (hc : header.Addressable) (hs : slots.length ≤ maxSlots) :
    (loadTree (ofTree (.object header slots))).run next =
      (loadInputs (ofSlots 0 slots)
        (.object (header.renewed next) (List.replicate slots.length none))).run (next + 1) := by
  have hp := loadInputs_ofParameters [] header.parameters (ofSlots 0 slots)
    (blankOf header (some slots.length) next) rfl (by simpa [Header.Addressable] using hc)
  rw [ofTree, loadTree_block _ _ _ rfl, run_bind, run_loadState, slotCount_ofHeader]
  simp only [if_pos hs]
  exact congrArg (fun load : Load Block => load.run (next + 1)) hp

theorem run_loadTree_overfull (header : Header) (slots : List (Option Block)) (next : Nat)
    (hs : ¬ slots.length ≤ maxSlots) :
    ((loadTree (ofTree (.object header slots))).run next).1 =
      .error (Block.slotFault (.object header slots)) := by
  rw [ofTree, loadTree_block _ _ _ rfl, run_bind, run_loadState, slotCount_ofHeader]
  simp only [if_neg hs]
  rfl

theorem set_middle (done : List (Option Block)) (count : Nat) (child : Block) :
    (done ++ List.replicate (count + 1) none).set done.length (some child) =
      done ++ [some child] ++ List.replicate count none := by
  rw [List.set_append_right _ _ (Nat.le_refl _), Nat.sub_self, List.replicate_succ,
    List.set_cons_zero, List.append_assoc, List.singleton_append]

/-- The slots before the index are done; the first filled slot from there on is loaded and
put in its place. -/
theorem run_loadInputs_filled (done : List (Option Block)) (child : Block)
    (rest : List (Option Block)) (header : Header) (next : Nat)
    (hl : done.length ≤ Text.maxUnsigned) :
    (loadInputs (ofSlots done.length (some child :: rest))
        (.object header (done ++ List.replicate (rest.length + 1) none))).run next =
      match (loadTree (ofTree child)).run next with
      | (.ok loaded, after) => (loadInputs (ofSlots (done ++ [some loaded]).length rest)
          (.object header (done ++ [some loaded] ++ List.replicate rest.length none))).run after
      | (.error fault, after) => (.error fault, after) := by
  have hn : (done ++ List.replicate (rest.length + 1) none)[done.length]? =
      some (none : Option Block) := by
    simp
  have hd : ∀ loaded, (done ++ [some loaded]).length = done.length + 1 := by simp
  rw [ofSlots, loadInputs_input, loadPlugged_slot done.length child header _ hl none hn]
  simp only [bind_assoc, pure_bind, set_middle, run_bind, hd]
  generalize (loadTree (ofTree child)).run next = run
  obtain ⟨result, after⟩ := run
  cases result with
  | ok loaded => rfl
  | error fault => rfl

theorem loadInputs_ofSlots_none (done rest : List (Option Block)) (header : Header) :
    loadInputs (ofSlots done.length (none :: rest))
        (.object header (done ++ List.replicate (rest.length + 1) none)) =
      loadInputs (ofSlots (done ++ [none]).length rest)
        (.object header (done ++ [none] ++ List.replicate rest.length none)) := by
  rw [ofSlots, List.length_append, List.length_singleton, List.append_assoc,
    List.singleton_append, List.replicate_succ]

mutual

/-- A tree is loaded from its elements under new identities. -/
theorem run_loadTree_renewed (block : Block) (next : Nat) (hc : block.Addressable)
    (hb : ∀ b ∈ block.preorder, b.slots.length ≤ maxSlots) :
    (loadTree (ofTree block)).run next =
      (.ok (Block.renewed next block).1, (Block.renewed next block).2) := by
  match block with
  | .scalar header =>
    exact run_loadTree_scalar header next (hc (.scalar header) (List.mem_singleton.mpr rfl))
  | .object header slots =>
    have hs : slots.length ≤ maxSlots := hb (.object header slots) List.mem_cons_self
    rw [run_loadTree_object header slots next (hc (.object header slots) List.mem_cons_self) hs]
    exact run_loadInputs_ofSlots [] slots (header.renewed next) (next + 1)
      (by simpa using hs) (fun b h => hc b (List.mem_cons_of_mem _ h))
      (fun b h => hb b (List.mem_cons_of_mem _ h))

theorem run_loadInputs_ofSlots (done slots : List (Option Block)) (header : Header) (next : Nat)
    (hl : done.length + slots.length ≤ maxSlots)
    (hc : ∀ b ∈ Block.preorderSlots slots, b.header.Addressable)
    (hb : ∀ b ∈ Block.preorderSlots slots, b.slots.length ≤ maxSlots) :
    (loadInputs (ofSlots done.length slots)
        (.object header (done ++ List.replicate slots.length none))).run next =
      (.ok (.object header (done ++ (Block.renewedSlots next slots).1)),
        (Block.renewedSlots next slots).2) := by
  match slots with
  | [] => rfl
  | none :: rest =>
    rw [List.length_cons] at hl ⊢
    rw [loadInputs_ofSlots_none, run_loadInputs_ofSlots (done ++ [none]) rest header next
      (by rw [List.length_append, List.length_singleton]; omega) hc hb, Block.renewedSlots,
      List.append_assoc, List.singleton_append]
  | some child :: rest =>
    have hw : maxSlots ≤ Text.maxUnsigned := by decide
    rw [List.length_cons] at hl ⊢
    rw [run_loadInputs_filled done child rest header next (by omega),
      run_loadTree_renewed child next (fun b h => hc b (List.mem_append_left _ h))
        (fun b h => hb b (List.mem_append_left _ h))]
    change (loadInputs _ _).run _ = _
    rw [run_loadInputs_ofSlots _ rest header _
        (by rw [List.length_append, List.length_singleton]; omega)
        (fun b h => hc b (List.mem_append_right _ h)) (fun b h => hb b (List.mem_append_right _ h)),
      Block.renewedSlots, List.append_assoc, List.singleton_append]

end

theorem run_loadTree (block : Block) (next : Nat) (hc : block.Countable)
    (hb : ∀ b ∈ block.preorder, b.slots.length ≤ maxSlots) :
    (loadTree (ofTree block)).run next =
      (.ok (Block.renewed next block).1, (Block.renewed next block).2) :=
  run_loadTree_renewed block next (Block.addressable_of_countable block hc) hb

mutual

theorem run_loadTree_fault (block : Block) (next : Nat) (hc : block.Countable) (b : Block)
    (hf : block.preorder.find? Block.isOverfull = some b) :
    ((loadTree (ofTree block)).run next).1 = .error b.slotFault := by
  match block with
  | .scalar header =>
    cases hf
  | .object header slots =>
    by_cases hs : slots.length ≤ maxSlots
    · have ho : (Block.object header slots).isOverfull = false := decide_eq_false (by
        exact Nat.not_lt_of_le hs)
      rw [Block.preorder, List.find?_cons_of_neg (by simp [ho])] at hf
      rw [run_loadTree_object header slots next
        (Block.addressable_of_countable _ hc (.object header slots) List.mem_cons_self) hs]
      exact run_loadInputs_fault [] slots (header.renewed next) (next + 1)
        (by simpa using hs) (fun b h => hc b (List.mem_cons_of_mem _ h)) b hf
    · have ho : (Block.object header slots).isOverfull = true := decide_eq_true (by
        exact Nat.lt_of_not_le hs)
      rw [Block.preorder, List.find?_cons_of_pos ho] at hf
      cases hf
      exact run_loadTree_overfull header slots next hs

theorem run_loadInputs_fault (done slots : List (Option Block)) (header : Header) (next : Nat)
    (hl : done.length + slots.length ≤ maxSlots)
    (hc : ∀ b ∈ Block.preorderSlots slots, b.header.parameters.length ≤ Text.maxUnsigned)
    (b : Block) (hf : (Block.preorderSlots slots).find? Block.isOverfull = some b) :
    ((loadInputs (ofSlots done.length slots)
        (.object header (done ++ List.replicate slots.length none))).run next).1 =
      .error b.slotFault := by
  match slots with
  | [] => cases hf
  | none :: rest =>
    rw [List.length_cons] at hl ⊢
    rw [loadInputs_ofSlots_none]
    exact run_loadInputs_fault (done ++ [none]) rest header next
      (by rw [List.length_append, List.length_singleton]; omega) hc b hf
  | some child :: rest =>
    have hw : maxSlots ≤ Text.maxUnsigned := by decide
    have hchild : child.Countable := fun b h => hc b (List.mem_append_left _ h)
    rw [List.length_cons] at hl ⊢
    rw [run_loadInputs_filled done child rest header next (by omega)]
    rw [Block.preorderSlots, List.find?_append] at hf
    cases hb : child.preorder.find? Block.isOverfull with
    | some c =>
      rw [hb, Option.some_or] at hf
      cases hf
      have hr := run_loadTree_fault child next hchild b hb
      generalize (loadTree (ofTree child)).run next = run at hr ⊢
      obtain ⟨result, after⟩ := run
      cases hr
      rfl
    | none =>
      rw [hb, Option.none_or] at hf
      rw [run_loadTree child next hchild fun c h => Nat.le_of_not_lt
        (of_decide_eq_false (Bool.eq_false_of_not_eq_true (List.find?_eq_none.mp hb c h)))]
      exact run_loadInputs_fault _ rest header _
        (by rw [List.length_append, List.length_singleton]; omega)
        (fun b h => hc b (List.mem_append_right _ h)) b hf

end

end Document

namespace Block

theorem run_ofTreeText_toText (e : Xml.Element) (h : e.Readable) (next : Nat) :
    (ofTreeText e.toText).run next = (Document.loadTree e).run next := by
  rw [ofTreeText, Document.root_toText e h]
  rfl

theorem run_ofTreeText_toTreeText (block : Block) (next : Nat) :
    (ofTreeText block.toTreeText).run next =
      (Document.loadTree (Document.ofTree block)).run next :=
  run_ofTreeText_toText _ (Document.readable_ofTree block) next

/-- A saved tree loads if and only if none of its object blocks has more slots than a document
may give. What loads is alike to what was saved, and unchecked; what does not load is refused
for the number of slots of the first block in preorder that has too many. -/
theorem ofTreeText_toTreeText (block : Block) (next : Nat) (hc : block.Countable) :
    ((∃ loaded, ((ofTreeText block.toTreeText).run next).1 = .ok loaded) ↔
      ∀ b ∈ block.preorder, b.slots.length ≤ maxSlots) ∧
    (∀ loaded, ((ofTreeText block.toTreeText).run next).1 = .ok loaded →
      block.Alike loaded ∧ loaded.Unchecked) ∧
    (∀ b, block.preorder.find? isOverfull = some b →
      ((ofTreeText block.toTreeText).run next).1 =
        .error (.invalidAttribute "gql_fields" (toString b.slots.length))) := by
  rw [run_ofTreeText_toTreeText]
  cases hf : block.preorder.find? isOverfull with
  | none =>
    have hb : ∀ b ∈ block.preorder, b.slots.length ≤ maxSlots := fun b h => Nat.le_of_not_lt
      (of_decide_eq_false (Bool.eq_false_of_not_eq_true (List.find?_eq_none.mp hf b h)))
    rw [Document.run_loadTree block next hc hb]
    refine ⟨⟨fun _ => hb, fun _ => ⟨_, rfl⟩⟩, ?_, fun b h => (nomatch h)⟩
    intro loaded hl
    cases hl
    exact ⟨alike_renewed next block, unchecked_renewed next block⟩
  | some b =>
    have hr := Document.run_loadTree_fault block next hc b hf
    rw [hr]
    refine ⟨⟨fun ⟨loaded, hl⟩ => (nomatch hl), fun hb => ?_⟩, fun loaded hl => (nomatch hl), ?_⟩
    · have ho := List.find?_some hf
      exact absurd (of_decide_eq_true ho)
        (Nat.not_lt_of_le (hb b (List.mem_of_find?_eq_some hf)))
    · intro c h
      cases h
      rfl

def mixedTree : Block :=
  let header (field : String) (values : List (Option BoundValue)) : Header :=
    { Header.fresh { number := 7 } "https://poke.example/graphql?a=1&b=<2>" field "Pokemon" with
      parameters := values.map fun value => { name := "p", typeName := "\"T\"", value }
      state := .bound
      description := some "shown" }
  .object (header "pokemon"
      [some (.text "  "), none, some (.number .nan), some (.text ""), some (.text "</field>")])
    [some (.scalar (header "name" [none, some (.enum "RED"), some (.boolean false)])), none,
      some (.object (header "moves" []) [])]

theorem ofTreeText_toTreeText_mixedTree :
    mixedTree.Countable ∧ ∃ loaded, ((ofTreeText mixedTree.toTreeText).run 1).1 = .ok loaded ∧
      mixedTree.Alike loaded ∧ loaded.Unchecked := by
  have hc : mixedTree.Countable := by unfold Countable; decide
  have h := ofTreeText_toTreeText mixedTree 1 hc
  obtain ⟨loaded, hl⟩ := h.1.mpr (by decide)
  exact ⟨hc, loaded, hl, h.2.1 loaded hl⟩

end Block

end QueryBlocks
