import Mathlib.Data.List.Forall2
import Mathlib.Data.List.ReduceOption
import QueryBlocks.Proofs.Plan.Printing

/-!
# The form of a compiled plan

Literals and other parts of a plan alternate. The other parts are the arguments of the block and
the plans of the object blocks in its slots, in order, and those plans have the same form for the
blocks that they come from. Each part has one tag.
-/

set_option autoImplicit false

namespace QueryBlocks

namespace Fragment

def isLiteral : Fragment → Bool
  | .literal _ => true
  | _ => false

@[simp] theorem isLiteral_literal (text : String) : (Fragment.literal text).isLiteral = true := rfl

def Alternating (parts : List Fragment) : Prop :=
  ∀ index part, parts[index]? = some part →
    if index % 2 = 0 then ∃ text, part = .literal text ∧ text ≠ "" else part.isLiteral = false

inductive Fenced : List Fragment → List Fragment → Prop where
  | last (text : String) (h : text ≠ "") : Fenced [] [.literal text]
  | part (text : String) (h : text ≠ "") (part : Fragment) (hp : part.isLiteral = false)
      (inner parts : List Fragment) (rest : Fenced inner parts) :
      Fenced (part :: inner) (.literal text :: part :: parts)

namespace Fenced

theorem length_eq (inner parts : List Fragment) (h : Fenced inner parts) :
    parts.length = 2 * inner.length + 1 := by
  induction h with
  | last text h => rfl
  | part text h part hp inner parts rest ih =>
    simp only [List.length_cons, ih]
    omega

theorem alternating (inner parts : List Fragment) (h : Fenced inner parts) :
    Alternating parts := by
  induction h with
  | last text h =>
    intro index part hi
    cases index with
    | zero => exact ⟨text, by simpa using hi.symm, h⟩
    | succ index => simp at hi
  | part text h part hp inner parts rest ih =>
    intro index found hi
    match index with
    | 0 => exact ⟨text, by simpa using hi.symm, h⟩
    | 1 =>
      have hf : part = found := by simpa using hi
      simpa [hf] using hp
    | index + 2 =>
      -- two places further on the parity is the same
      have hr := ih index found (by simpa using hi)
      simpa using hr

theorem inner_eq (inner parts : List Fragment) (h : Fenced inner parts) :
    parts.filter (fun part => !part.isLiteral) = inner := by
  induction h with
  | last text h => rfl
  | part text h part hp inner parts rest ih => simp [hp, ih]

end Fenced

def Joins (inner parts : List Fragment) : Prop := Fenced inner (joinLiterals parts)

theorem joinLiterals_part (part : Fragment) (hp : part.isLiteral = false)
    (parts : List Fragment) : joinLiterals (part :: parts) = part :: joinLiterals parts := by
  cases part with
  | literal text => simp at hp
  | null => rfl
  | value bound => rfl
  | append inner coercions => rfl

theorem joins_last (text : String) (h : text ≠ "") : Joins [] [.literal text] :=
  .last text h

/-- A literal in front goes into the first one, and may have no text of its own. -/
theorem joins_literal (text : String) (inner parts : List Fragment) (h : Joins inner parts) :
    Joins inner (.literal text :: parts) := by
  unfold Joins at h ⊢
  rw [joinLiterals]
  generalize joinLiterals parts = joined at h
  cases h with
  | last more hm => exact .last (text ++ more) (by simp [hm])
  | part more hm part hp inner parts rest =>
    exact .part (text ++ more) (by simp [hm]) part hp inner parts rest

/-- Another part needs a literal in front that has text. -/
theorem joins_part (text : String) (ht : text ≠ "") (part : Fragment)
    (hp : part.isLiteral = false) (inner parts : List Fragment) (h : Joins inner parts) :
    Joins (part :: inner) (.literal text :: part :: parts) := by
  have hj : joinLiterals (.literal text :: part :: parts) =
      .literal text :: part :: joinLiterals parts := by
    rw [joinLiterals, joinLiterals_part part hp]
    cases part <;> simp_all
  rw [Joins, hj]
  exact .part text ht part hp inner _ h

end Fragment

open Fragment (Joins Alternating)

theorem isLiteral_parameter (p : Parameter) : p.fragment.isLiteral = false := by
  unfold Parameter.fragment
  cases p.value <;> rfl

theorem joins_moreArguments (parameters : List Parameter) (inner parts : List Fragment)
    (h : Joins inner parts) :
    Joins (parameters.map Parameter.fragment ++ inner) (moreArguments parameters ++ parts) := by
  induction parameters with
  | nil => exact h
  | cons p rest ih => exact Fragment.joins_part _ (by simp) _ (isLiteral_parameter p) _ _ ih

theorem joins_argumentList (parameters : List Parameter) (inner parts : List Fragment)
    (h : Joins inner parts) :
    Joins (parameters.map Parameter.fragment ++ inner) (argumentList parameters ++ parts) := by
  cases parameters with
  | nil => exact h
  | cons p rest =>
    have hclose : Joins inner (.literal ")" :: parts) := Fragment.joins_literal _ _ _ h
    have hmore := joins_moreArguments rest inner _ hclose
    simpa [argumentList] using
      Fragment.joins_part ("(" ++ p.name ++ ": ") (by simp) _ (isLiteral_parameter p) _ _ hmore

namespace Block

def objectsIn (slots : List (Option Block)) : List Block :=
  slots.reduceOption.filter isObject

@[simp] theorem objectsIn_none (rest : List (Option Block)) :
    objectsIn (none :: rest) = objectsIn rest := rfl

@[simp] theorem objectsIn_scalar (header : Header) (rest : List (Option Block)) :
    objectsIn (some (.scalar header) :: rest) = objectsIn rest := rfl

@[simp] theorem objectsIn_object (header : Header) (slots rest : List (Option Block)) :
    objectsIn (some (.object header slots) :: rest) = .object header slots :: objectsIn rest := rfl

theorem objectsIn_roots (roots : List Block) :
    objectsIn (roots.map some) = roots.filter isObject := by
  simp [objectsIn, List.reduceOption]

theorem isEmpty_object (header : Header) (slots : List (Option Block)) :
    (Block.object header slots).fragment.isEmpty = false := by
  rw [Bool.eq_false_iff]
  intro he
  exact printed_object_ne header slots ((isEmpty_fragment _ (render_fragment _)).mp he)

theorem joins_lines (slots : List (Option Block)) (inner parts : List Fragment)
    (h : Joins inner parts) :
    Joins ((objectsIn slots).map fragment ++ inner) (lines slots ++ parts) := by
  induction slots with
  | nil => exact h
  | cons slot rest ih =>
    match slot with
    | none => exact ih
    | some (.scalar header) =>
      by_cases he : (Block.scalar header).fragment.isEmpty = true
      · simpa [lines, he] using ih
      · -- the field and what stands around it are literals, and go into the next one
        rw [lines, if_neg he]
        apply Fragment.joins_literal
        apply Fragment.joins_literal
        exact Fragment.joins_literal _ _ _ ih
    | some (.object header slots) =>
      have he : ¬(Block.object header slots).fragment.isEmpty = true := by
        simp [isEmpty_object]
      rw [lines, if_neg he, objectsIn_object]
      apply Fragment.joins_part "  " (by decide) _ rfl
      exact Fragment.joins_literal _ _ _ ih

/-- What an object block or an operation is put together from: a heading, arguments, and a body with
the lines of its slots. -/
theorem joins_body (heading : String) (parameters : List Parameter) (slots : List (Option Block)) :
    Joins (parameters.map Parameter.fragment ++ (objectsIn slots).map fragment)
      (.literal heading :: argumentList parameters ++ openBrace :: lines slots ++ [closeBrace]) := by
  have hclose : Joins [] [closeBrace] := Fragment.joins_last _ (by decide)
  have hlines := joins_lines slots [] _ hclose
  rw [List.append_nil] at hlines
  have hopen := Fragment.joins_literal " \x7b\n" _ _ hlines
  have hall := Fragment.joins_literal heading _ _ (joins_argumentList parameters _ _ hopen)
  simpa [openBrace] using hall

inductive Normal : List Parameter → List Block → Fragment → Prop where
  | parts (parameters : List Parameter) (objects : List Block) (parts plans : List Fragment)
      (count : parts.length = 2 * (parameters.length + objects.length) + 1)
      (alternating : Alternating parts)
      (inner : parts.filter (fun part => !part.isLiteral) =
        parameters.map Parameter.fragment ++ plans)
      (nested : List.Forall₂ (fun object plan =>
        Normal object.header.parameters (objectsIn object.slots) plan) objects plans) :
      Normal parameters objects (.append parts (List.replicate parts.length .text))

theorem normal_concat (heading : String) (parameters : List Parameter)
    (slots : List (Option Block))
    (h : ∀ object ∈ objectsIn slots,
      Normal object.header.parameters (objectsIn object.slots) object.fragment) :
    Normal parameters (objectsIn slots)
      (.concat (.literal heading :: argumentList parameters ++
        openBrace :: lines slots ++ [closeBrace])) := by
  have hf : Fragment.Fenced _ _ := joins_body heading parameters slots
  refine .parts parameters _ _ ((objectsIn slots).map fragment) ?_ hf.alternating hf.inner_eq ?_
  · simpa using hf.length_eq
  · rw [List.forall₂_map_right_iff, List.forall₂_same]
    exact h

mutual

theorem normal_fragment (block : Block) (h : block.isObject = true) :
    Normal block.header.parameters (objectsIn block.slots) block.fragment := by
  match block with
  | .scalar header => cases h
  | .object header slots =>
    exact normal_concat header.field header.parameters slots (normal_objects slots)

theorem normal_objects (slots : List (Option Block)) :
    ∀ object ∈ objectsIn slots,
      Normal object.header.parameters (objectsIn object.slots) object.fragment := by
  match slots with
  | [] => simp [objectsIn]
  | none :: rest => exact normal_objects rest
  | some (.scalar header) :: rest => exact normal_objects rest
  | some (.object header inner) :: rest =>
    rw [objectsIn_object, List.forall_mem_cons]
    exact ⟨normal_fragment (.object header inner) rfl, normal_objects rest⟩

end

end Block

open Block (Normal objectsIn)

def Compiled.InNormalForm (parameters : List Parameter) (objects : List Block)
    (compiled : Compiled) : Prop :=
  Normal parameters objects compiled.fragment ∧
    ∃ parts, compiled.fragment = .append parts compiled.coercions

theorem inNormalForm_compiledOf (parameters : List Parameter) (objects : List Block)
    (plan : Fragment) (h : Normal parameters objects plan) :
    (Block.compiledOf plan).InNormalForm parameters objects := by
  cases h with
  | parts _ _ parts plans count alternating inner nested =>
    exact ⟨.parts parameters objects parts plans count alternating inner nested, parts, rfl⟩

/-- A scalar block compiles to one literal without tags. An object block compiles to a plan in normal
form with its arguments and the object blocks in its slots, and an operation to one with no
arguments and the object blocks among its roots. -/
theorem compile_normal :
    (∀ header : Header, (Block.scalar header).compile =
      { fragment := .literal header.field, coercions := [] }) ∧
    (∀ (header : Header) (slots : List (Option Block)),
      (Block.object header slots).compile.InNormalForm header.parameters (objectsIn slots)) ∧
    ∀ (kind : OperationKind) (name : Option String) (roots : List Block),
      (compileOperation kind name roots).InNormalForm [] (roots.filter Block.isObject) := by
  refine ⟨fun header => rfl, fun header slots => ?_, fun kind name roots => ?_⟩
  · exact inNormalForm_compiledOf _ _ _ (Block.normal_fragment (.object header slots) rfl)
  · have h := Block.normal_concat (operationHeading kind name) [] (roots.map some)
      (Block.normal_objects _)
    rw [Block.objectsIn_roots] at h
    exact inNormalForm_compiledOf _ _ _ h

end QueryBlocks
