import QueryBlocks.Proofs.Number.RoundTrip
import QueryBlocks.Proofs.Plan.Arguments
import QueryBlocks.Proofs.Plan.Printing

/-!
# Plans without text

Compiling looks at a plan, not at its text, to leave out what is empty. The test finds the plans
that give no text and have no place for an argument. So it can only miss a plan whose arguments
are all enumeration values without a name, and no block compiles to such a plan.
-/

set_option autoImplicit false

namespace QueryBlocks

theorem Binary64.toString_ne_empty (x : Binary64) : x.toString ≠ "" := by
  intro h
  have ht : x.text = [] := by simpa [Binary64.toString] using h
  -- a number is read back from its text, and none is read from nothing
  have hr := Binary64.read_text x
  rw [ht] at hr
  exact absurd hr (by simp [Binary64.read, Binary64.splitSign, Binary64.readDecimal])

/-- Of all bound values only an enumeration value can have an empty literal. -/
theorem literal_eq_empty_iff (bound : BoundValue) : bound.literal = "" ↔ bound = .enum "" := by
  cases bound with
  | text value => simp [BoundValue.literal, Literal.quoteInQuery]
  | number value => simpa [BoundValue.literal] using Binary64.toString_ne_empty value
  | boolean value => cases value <;> simp [BoundValue.literal]
  | enum name => simp [BoundValue.literal]

namespace Fragment

mutual

theorem isEmpty_of_render (plan : Fragment) (hr : plan.render = "") (ha : plan.arguments = []) :
    plan.isEmpty = true := by
  match plan with
  | .literal text => exact String.isEmpty_iff.mpr hr
  | .null => cases ha
  | .value bound => cases ha
  | .append parts coercions => exact allEmpty_of_renderParts parts hr ha

theorem allEmpty_of_renderParts (parts : List Fragment) (hr : renderParts parts = "")
    (ha : partArguments parts = []) : allEmpty parts = true := by
  match parts with
  | [] => rfl
  | part :: rest =>
    rw [renderParts, String.append_eq_empty_iff] at hr
    rw [partArguments, List.append_eq_nil_iff] at ha
    rw [allEmpty, isEmpty_of_render part hr.1 ha.1, allEmpty_of_renderParts rest hr.2 ha.2]
    rfl

end

/-- The plans that are left out give no text and have no place for an argument. -/
theorem isEmpty_iff (plan : Fragment) :
    plan.isEmpty = true ↔ plan.render = "" ∧ plan.arguments = [] :=
  ⟨fun h => ⟨render_of_isEmpty plan h, arguments_of_isEmpty plan h⟩,
    fun h => isEmpty_of_render plan h.1 h.2⟩

mutual

theorem arguments_of_render (plan : Fragment) (h : plan.render = "") :
    ∀ argument ∈ plan.arguments, argument = some (.enum "") := by
  match plan with
  | .literal text => simp [arguments]
  | .null => exact absurd h (by decide)
  | .value bound => simpa [arguments] using (literal_eq_empty_iff bound).mp h
  | .append parts coercions => exact partArguments_of_renderParts parts h

theorem partArguments_of_renderParts (parts : List Fragment) (h : renderParts parts = "") :
    ∀ argument ∈ partArguments parts, argument = some (.enum "") := by
  match parts with
  | [] => simp [partArguments]
  | part :: rest =>
    rw [renderParts, String.append_eq_empty_iff] at h
    intro argument ha
    rw [partArguments, List.mem_append] at ha
    rcases ha with ha | ha
    · exact arguments_of_render part h.1 argument ha
    · exact partArguments_of_renderParts rest h.2 argument ha

end

end Fragment

theorem Block.printed_eq_empty_iff (block : Block) :
    block.printed = "" ↔ ∃ header, block = .scalar header ∧ header.field = "" := by
  cases block with
  | scalar header => simp [printed]
  | object header slots => simpa using printed_object_ne header slots

/-- A plan that passes for empty gives no text. A plan that does not, and still gives none, has
arguments, and all of them are enumeration values without a name. No block has such a plan,
whatever is bound to it: its plan passes for empty if and only if it gives no text, and that is so
for a scalar block without a field name and for no other. -/
theorem emptiness_agrees :
    (∀ plan : Fragment, plan.isEmpty = true → plan.render = "") ∧
    (∀ plan : Fragment, plan.isEmpty = false → plan.render = "" →
      some (.enum "") ∈ plan.arguments ∧
        ∀ argument ∈ plan.arguments, argument = some (.enum "")) ∧
    ∀ block : Block,
      (block.compile.fragment.isEmpty = true ↔ block.compile.render = "") ∧
      (block.compile.render = "" ↔ ∃ header, block = .scalar header ∧ header.field = "") := by
  refine ⟨Fragment.render_of_isEmpty, fun plan he hr => ?_, fun block => ⟨?_, ?_⟩⟩
  · have hall := Fragment.arguments_of_render plan hr
    have hne : plan.arguments ≠ [] := by
      intro ha
      rw [(Fragment.isEmpty_iff plan).mpr ⟨hr, ha⟩] at he
      cases he
    obtain ⟨argument, rest, hargs⟩ := List.exists_cons_of_ne_nil hne
    have hfirst : argument ∈ plan.arguments := by simp [hargs]
    exact ⟨hall argument hfirst ▸ hfirst, hall⟩
  · rw [Block.render_compile, Block.compile, Block.compiledOf_fragment]
    exact Block.isEmpty_fragment block (Block.render_fragment block)
  · rw [Block.render_compile, Block.printed_eq_empty_iff]

def namelessPlan : Fragment :=
  .append [.literal "", .append [.value (.enum ""), .literal ""] [.text, .text]] [.text, .text]

theorem emptiness_agrees_namelessPlan :
    namelessPlan.isEmpty = false ∧ namelessPlan.render = "" ∧
      some (.enum "") ∈ namelessPlan.arguments ∧
      (Fragment.append [.literal "", .append [] []] []).render = "" := by
  have he : namelessPlan.isEmpty = false := by decide
  have hr : namelessPlan.render = "" := by decide
  exact ⟨he, hr, (emptiness_agrees.2.1 namelessPlan he hr).1,
    emptiness_agrees.1 (.append [.literal "", .append [] []] []) (by decide)⟩

end QueryBlocks
