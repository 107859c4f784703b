import QueryBlocks.Plan.Compile
import QueryBlocks.Proofs.Block.Likeness
import QueryBlocks.Proofs.Block.Places

/-!
# What a plan depends on

The plan of a block depends on the fields and the parameters in its tree and on which slots are
filled. Identities, states, types and descriptions have no part in it, so alike blocks have the
same plan.
-/

set_option autoImplicit false

namespace QueryBlocks

namespace Block

mutual

/-- A plan has no use for more of a header than its field and its parameters. -/
theorem fragment_mapHeaders (f : Bool → Header → Header)
    (hf : ∀ isObject header, (f isObject header).field = header.field ∧
      (f isObject header).parameters = header.parameters) (block : Block) :
    (block.mapHeaders f).fragment = block.fragment := by
  match block with
  | .scalar header => rw [mapHeaders, fragment, fragment, (hf false header).1]
  | .object header slots =>
    rw [mapHeaders, fragment, fragment, (hf true header).1, (hf true header).2,
      lines_mapHeadersSlots f hf slots]

theorem lines_mapHeadersSlots (f : Bool → Header → Header)
    (hf : ∀ isObject header, (f isObject header).field = header.field ∧
      (f isObject header).parameters = header.parameters) (slots : List (Option Block)) :
    lines (mapHeadersSlots f slots) = lines slots := by
  match slots with
  | [] => rfl
  | none :: rest => exact lines_mapHeadersSlots f hf rest
  | some child :: rest =>
    rw [mapHeadersSlots, lines, lines, fragment_mapHeaders f hf child,
      lines_mapHeadersSlots f hf rest]

end

theorem compile_mapHeaders (f : Bool → Header → Header)
    (hf : ∀ isObject header, (f isObject header).field = header.field ∧
      (f isObject header).parameters = header.parameters) (block : Block) :
    (block.mapHeaders f).compile = block.compile := by
  rw [compile, compile, fragment_mapHeaders f hf block]

theorem fragment_alike (a b : Block) (h : a.Alike b) : a.fragment = b.fragment := by
  have hbare (block : Block) : block.bare.fragment = block.fragment :=
    fragment_mapHeaders (fun _ header => header.bare) (fun _ _ => ⟨rfl, rfl⟩) block
  rw [← hbare a, ← hbare b]
  exact congrArg fragment h

theorem compile_alike (a b : Block) (h : a.Alike b) : a.compile = b.compile := by
  rw [compile, compile, fragment_alike a b h]

/-- Of the blocks in its slots, a block's plan sees only their plans. -/
theorem lines_congr (xs ys : List (Option Block))
    (h : xs.map (Option.map fragment) = ys.map (Option.map fragment)) : lines xs = lines ys := by
  induction xs generalizing ys with
  | nil =>
    rw [List.map_nil, eq_comm, List.map_eq_nil_iff] at h
    rw [h]
  | cons x xs ih =>
    cases ys with
    | nil => cases h
    | cons y ys =>
      obtain ⟨hxy, hrest⟩ := List.cons.inj h
      cases x with
      | none =>
        cases y with
        | none => exact ih ys hrest
        | some b => cases hxy
      | some a =>
        cases y with
        | none => cases hxy
        | some b =>
          have hab : a.fragment = b.fragment := Option.some.inj hxy
          rw [lines, lines, hab, ih ys hrest]

end Block

theorem compileOperation_congr (kind : OperationKind) (name : Option String)
    (xs ys : List Block) (h : xs.map Block.fragment = ys.map Block.fragment) :
    compileOperation kind name xs = compileOperation kind name ys := by
  have hs : (xs.map some).map (Option.map Block.fragment) =
      (ys.map some).map (Option.map Block.fragment) := by
    have hm := congrArg (List.map some) h
    rwa [List.map_map, List.map_map] at hm ⊢
  rw [compileOperation, compileOperation, Block.lines_congr _ _ hs]

/-- A root may be replaced by one that is alike. -/
theorem compileOperation_alike (kind : OperationKind) (name : Option String)
    (before after : List Block) (a b : Block) (h : a.Alike b) :
    compileOperation kind name (before ++ a :: after) =
      compileOperation kind name (before ++ b :: after) := by
  apply compileOperation_congr
  rw [List.map_append, List.map_append, List.map_cons, List.map_cons, Block.fragment_alike a b h]

end QueryBlocks
