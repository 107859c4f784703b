import QueryBlocks.Plan.Compile

/-!
# The text of a compiled block

Compiling a block and rendering the plan gives what a printer over the tree gives: joining
literals changes no text, and a line is left out where the block has none.
-/

set_option autoImplicit false

namespace QueryBlocks

namespace Fragment

theorem renderParts_append (parts more : List Fragment) :
    renderParts (parts ++ more) = renderParts parts ++ renderParts more := by
  induction parts with
  | nil => rw [List.nil_append, renderParts, String.empty_append]
  | cons part parts ih => rw [List.cons_append, renderParts, renderParts, ih, String.append_assoc]

theorem renderParts_joinLiterals (parts : List Fragment) :
    renderParts (joinLiterals parts) = renderParts parts := by
  induction parts with
  | nil => rfl
  | cons part parts ih =>
    cases part with
    | literal text =>
      rw [joinLiterals]
      split
      · rename_i more others hj
        rw [renderParts, renderParts, ← ih, hj, renderParts, render, render, render,
          String.append_assoc]
      · rw [renderParts, renderParts, ih]
    | null => rw [joinLiterals, renderParts, renderParts, ih]; simp
    | value bound => rw [joinLiterals, renderParts, renderParts, ih]; simp
    | append inner coercions => rw [joinLiterals, renderParts, renderParts, ih]; simp

theorem render_concat (parts : List Fragment) : (concat parts).render = renderParts parts :=
  renderParts_joinLiterals parts

mutual

theorem render_of_isEmpty (plan : Fragment) (h : plan.isEmpty = true) : plan.render = "" := by
  match plan with
  | .literal text => exact String.isEmpty_iff.mp h
  | .null => exact absurd h Bool.false_ne_true
  | .value bound => exact absurd h Bool.false_ne_true
  | .append parts coercions => exact renderParts_of_allEmpty parts h

theorem renderParts_of_allEmpty (parts : List Fragment) (h : allEmpty parts = true) :
    renderParts parts = "" := by
  match parts with
  | [] => rfl
  | part :: rest =>
    rw [allEmpty, Bool.and_eq_true] at h
    rw [renderParts, render_of_isEmpty part h.1, renderParts_of_allEmpty rest h.2]
    rfl

end

end Fragment

def Parameter.literal (p : Parameter) : String :=
  match p.value with
  | some value => value.literal
  | none => "null"

def Parameter.printed (p : Parameter) : String := p.name ++ ": " ++ p.literal

def printedArguments (parameters : List Parameter) : String :=
  if parameters.isEmpty then ""
  else "(" ++ ", ".intercalate (parameters.map Parameter.printed) ++ ")"

namespace Block

mutual

/-- The text of a block: its field, for an object its arguments, and between braces an
indented line for every block below it that has a text. -/
def printed : Block → String
  | .scalar header => header.field
  | .object header slots =>
    header.field ++ printedArguments header.parameters ++ " \x7b\n" ++ printedLines slots ++
      "\x7d\n"

def printedLines : List (Option Block) → String
  | [] => ""
  | none :: rest => printedLines rest
  | some child :: rest =>
    (if child.printed = "" then "" else "  " ++ child.printed ++ "\n") ++ printedLines rest

end

end Block

theorem render_parameter (p : Parameter) : p.fragment.render = p.literal := by
  unfold Parameter.fragment Parameter.literal
  cases p.value <;> rfl

theorem renderParts_moreArguments (parameters : List Parameter) (p : Parameter) :
    Fragment.renderParts (.literal (p.name ++ ": ") :: p.fragment :: moreArguments parameters) =
      ", ".intercalate ((p :: parameters).map Parameter.printed) := by
  induction parameters generalizing p with
  | nil =>
    simp [Fragment.renderParts, moreArguments, render_parameter, Fragment.render, Parameter.printed]
  | cons q parameters ih =>
    rw [List.map_cons, List.map_cons, String.intercalate_cons_cons, ← List.map_cons, ← ih q]
    simp only [Fragment.renderParts, moreArguments, Fragment.render, render_parameter,
      Parameter.printed, String.append_assoc]

theorem renderParts_argumentList (parameters : List Parameter) :
    Fragment.renderParts (argumentList parameters) = printedArguments parameters := by
  cases parameters with
  | nil => rfl
  | cons p rest =>
    have hrest := renderParts_moreArguments rest p
    rw [printedArguments, List.isEmpty_cons, if_neg Bool.false_ne_true, ← hrest]
    simp only [argumentList, Fragment.renderParts, Fragment.render, Fragment.renderParts_append,
      String.append_assoc, String.append_empty]

namespace Block

theorem printed_object_ne (header : Header) (slots : List (Option Block)) :
    (Block.object header slots).printed ≠ "" := by
  rw [printed]
  simp

/-- The test for parts without text sees which blocks print nothing. -/
theorem isEmpty_fragment (block : Block) (h : block.fragment.render = block.printed) :
    block.fragment.isEmpty = true ↔ block.printed = "" := by
  cases block with
  | scalar header => exact String.isEmpty_iff
  | object header slots =>
    constructor
    · intro he
      rw [← h, Fragment.render_of_isEmpty _ he]
    · intro hp
      exact absurd hp (printed_object_ne header slots)

mutual

/-- Compiling and rendering a block prints it. -/
theorem render_fragment (block : Block) : block.fragment.render = block.printed := by
  match block with
  | .scalar header => rfl
  | .object header slots =>
    rw [fragment, Fragment.render_concat, printed, ← renderParts_lines slots,
      ← renderParts_argumentList]
    simp only [Fragment.renderParts, Fragment.renderParts_append, Fragment.render, openBrace,
      closeBrace, String.append_assoc, String.append_empty]

theorem renderParts_lines (slots : List (Option Block)) :
    Fragment.renderParts (lines slots) = printedLines slots := by
  match slots with
  | [] => rfl
  | none :: rest => exact renderParts_lines rest
  | some child :: rest =>
    have hc := render_fragment child
    have hr := renderParts_lines rest
    rw [lines, printedLines]
    by_cases hp : child.printed = ""
    · rw [if_pos ((isEmpty_fragment child hc).mpr hp), if_pos hp, hr, String.empty_append]
    · rw [if_neg (fun he => hp ((isEmpty_fragment child hc).mp he)), if_neg hp]
      simp only [Fragment.renderParts, Fragment.render, indent, lineEnd, hc, hr,
        String.append_assoc]

end

theorem compiledOf_render (plan : Fragment) : (compiledOf plan).render = plan.render := by
  rw [Compiled.render, compiledOf_fragment]

theorem render_compile (block : Block) : block.compile.render = block.printed := by
  rw [compile, compiledOf_render, render_fragment]

/-- Compiling and rendering an operation prints its heading and a line for every root. -/
theorem render_compileOperation (kind : OperationKind) (name : Option String)
    (roots : List Block) :
    (compileOperation kind name roots).render =
      operationHeading kind name ++ " \x7b\n" ++ printedLines (roots.map some) ++ "\x7d\n" := by
  rw [compileOperation, compiledOf_render, Fragment.render_concat, ← renderParts_lines]
  simp only [Fragment.renderParts, Fragment.renderParts_append, Fragment.render, openBrace,
    closeBrace, String.append_assoc, String.append_empty]

end Block

def printedName : Option String → String
  | none => ""
  | some name => if name = "" then "" else " " ++ name

theorem operationHeading_eq (kind : OperationKind) (name : Option String) :
    operationHeading kind name = kind.keyword ++ printedName name := by
  cases name with
  | none => rw [operationHeading, printedName, String.append_empty]
  | some name =>
    rw [operationHeading, printedName]
    by_cases hn : name = ""
    · simp [hn]
    · have he : ¬name.isEmpty = true := fun h => hn (String.isEmpty_iff.mp h)
      rw [if_neg he, if_neg hn, String.append_assoc]

/-- A plan gives the text that a printer over the tree writes without a plan, for a block as for
an operation. -/
theorem render_as_printed :
    (∀ block : Block, block.compile.render = block.printed) ∧
    ∀ (kind : OperationKind) (name : Option String) (roots : List Block),
      (compileOperation kind name roots).render =
        kind.keyword ++ printedName name ++ " \x7b\n" ++ Block.printedLines (roots.map some) ++
          "\x7d\n" := by
  refine ⟨Block.render_compile, fun kind name roots => ?_⟩
  rw [Block.render_compileOperation, operationHeading_eq]

end QueryBlocks
