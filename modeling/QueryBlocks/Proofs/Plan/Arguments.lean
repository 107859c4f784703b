import QueryBlocks.Plan.Compile

/-!
# The arguments of a compiled block

A plan has one place for every argument of the tree. Read from left to right through all that
is nested, the places hold what is bound to the parameters of the object blocks in preorder.
-/

set_option autoImplicit false

namespace QueryBlocks

namespace Fragment

mutual

/-- What stands in the places of arguments, from left to right; a place without a value holds
`none`. -/
def arguments : Fragment → List (Option BoundValue)
  | .literal _ => []
  | .null => [none]
  | .value bound => [some bound]
  | .append parts _ => partArguments parts

def partArguments : List Fragment → List (Option BoundValue)
  | [] => []
  | part :: rest => arguments part ++ partArguments rest

end

theorem partArguments_append (parts more : List Fragment) :
    partArguments (parts ++ more) = partArguments parts ++ partArguments more := by
  induction parts with
  | nil => rfl
  | cons part parts ih => simp [partArguments, ih]

theorem partArguments_joinLiterals (parts : List Fragment) :
    partArguments (joinLiterals parts) = partArguments parts := by
  induction parts with
  | nil => rfl
  | cons part parts ih =>
    cases part with
    | literal text =>
      rw [joinLiterals, partArguments, arguments, List.nil_append, ← ih]
      split
      · rename_i more others hj
        simp [hj, partArguments, arguments]
      · simp [partArguments, arguments]
    | null => simp [joinLiterals, partArguments, ih]
    | value bound => simp [joinLiterals, partArguments, ih]
    | append inner coercions => simp [joinLiterals, partArguments, ih]

theorem arguments_concat (parts : List Fragment) :
    (concat parts).arguments = partArguments parts :=
  partArguments_joinLiterals parts

mutual

/-- A part that is left out has no place for an argument. -/
theorem arguments_of_isEmpty (plan : Fragment) (h : plan.isEmpty = true) :
    plan.arguments = [] := by
  match plan with
  | .literal text => rfl
  | .null => cases h
  | .value bound => cases h
  | .append parts coercions => exact partArguments_of_allEmpty parts h

theorem partArguments_of_allEmpty (parts : List Fragment) (h : allEmpty parts = true) :
    partArguments parts = [] := by
  match parts with
  | [] => rfl
  | part :: rest =>
    rw [allEmpty, Bool.and_eq_true] at h
    rw [partArguments, arguments_of_isEmpty part h.1, partArguments_of_allEmpty rest h.2,
      List.append_nil]

end

end Fragment

theorem arguments_parameter (p : Parameter) : p.fragment.arguments = [p.value] := by
  unfold Parameter.fragment
  cases p.value <;> rfl

theorem partArguments_moreArguments (parameters : List Parameter) :
    Fragment.partArguments (moreArguments parameters) = parameters.map Parameter.value := by
  induction parameters with
  | nil => rfl
  | cons p rest ih =>
    simp [moreArguments, Fragment.partArguments, Fragment.arguments, arguments_parameter, ih]

theorem partArguments_argumentList (parameters : List Parameter) :
    Fragment.partArguments (argumentList parameters) = parameters.map Parameter.value := by
  cases parameters with
  | nil => rfl
  | cons p rest =>
    simp [argumentList, Fragment.partArguments, Fragment.partArguments_append,
      Fragment.arguments, arguments_parameter, partArguments_moreArguments]

namespace Block

/-- The parameters of the object blocks among some blocks, in order; scalar blocks have no
arguments whatever their parameters. -/
def objectValues (blocks : List Block) : List (Option BoundValue) :=
  (blocks.filter isObject).flatMap fun block => block.header.parameters.map Parameter.value

theorem objectValues_append (blocks more : List Block) :
    objectValues (blocks ++ more) = objectValues blocks ++ objectValues more := by
  simp [objectValues]

theorem objectValues_flatMap (roots : List Block) :
    objectValues (roots.flatMap preorder) = roots.flatMap fun root => objectValues root.preorder := by
  simp [objectValues, List.filter_flatMap, List.flatMap_assoc]

theorem objectValues_object (header : Header) (slots : List (Option Block)) :
    objectValues (Block.object header slots).preorder =
      header.parameters.map Parameter.value ++ objectValues (preorderSlots slots) := by
  rw [objectValues, preorder, List.filter_cons_of_pos rfl, List.flatMap_cons]
  rfl

mutual

theorem arguments_fragment (block : Block) :
    block.fragment.arguments = objectValues block.preorder := by
  match block with
  | .scalar header => rfl
  | .object header slots =>
    rw [fragment, Fragment.arguments_concat, objectValues_object, ← partArguments_lines slots,
      ← partArguments_argumentList]
    simp [Fragment.partArguments, Fragment.partArguments_append, Fragment.arguments, openBrace,
      closeBrace]

theorem partArguments_lines (slots : List (Option Block)) :
    Fragment.partArguments (lines slots) = objectValues (preorderSlots slots) := by
  match slots with
  | [] => rfl
  | none :: rest => exact partArguments_lines rest
  | some child :: rest =>
    have hc := arguments_fragment child
    have hr := partArguments_lines rest
    rw [lines, preorderSlots, objectValues_append, ← hc, ← hr]
    by_cases he : child.fragment.isEmpty = true
    · rw [if_pos he, Fragment.arguments_of_isEmpty _ he, List.nil_append]
    · rw [if_neg he]
      simp [Fragment.partArguments, Fragment.arguments, indent, lineEnd]

end

theorem preorderSlots_roots (roots : List Block) :
    preorderSlots (roots.map some) = roots.flatMap preorder := by
  induction roots with
  | nil => rfl
  | cons root roots ih => rw [List.map_cons, preorderSlots, ih, List.flatMap_cons]

end Block

/-- Every argument of the tree has its place in the plan, once and in order, and there is no
other place: a block before those below it, those in the order of the slots, roots in order. -/
theorem arguments_kept :
    (∀ block : Block, block.compile.fragment.arguments = Block.objectValues block.preorder) ∧
    ∀ (kind : OperationKind) (name : Option String) (roots : List Block),
      (compileOperation kind name roots).fragment.arguments =
        roots.flatMap fun root => Block.objectValues root.preorder := by
  constructor
  · intro block
    rw [Block.compile, Block.compiledOf_fragment, Block.arguments_fragment]
  · intro kind name roots
    rw [compileOperation, Block.compiledOf_fragment, Fragment.arguments_concat,
      ← Block.objectValues_flatMap, ← Block.preorderSlots_roots, ← Block.partArguments_lines]
    simp [Fragment.partArguments, Fragment.partArguments_append, Fragment.arguments, openBrace,
      closeBrace]

end QueryBlocks
