import QueryBlocks.Proofs.Schema.Passes

/-!
# What a cache offers

The templates that an editor can get for an endpoint, and schemas whose references tell the
truth about the types they lead to: there a template says of its type what the type says of
itself.
-/

set_option autoImplicit false

namespace QueryBlocks

theorem mem_of_lookup {α : Type} (name : String) (value : α) (entries : List (String × α))
    (h : lookup name entries = some value) : (name, value) ∈ entries := by
  induction entries with
  | nil => cases h
  | cons entry rest ih =>
    obtain ⟨key, first⟩ := entry
    rw [lookup] at h
    split at h
    · rename_i hk
      cases h
      rw [hk]
      exact List.mem_cons_self
    · exact List.mem_cons_of_mem _ (ih h)

/-- A field all of whose references have a base leads to a type of the schema, and that is an
object type exactly if the reference says so. -/
def Schema.Consistent (schema : Schema) : Prop :=
  ∀ entry ∈ schema.types.entries, ∀ field ∈ entry.2.fields, ∀ base : BaseType,
    field.type.resolveBase = .ok base →
    (∀ arg ∈ field.args, ∃ argBase, arg.type.resolveBase = .ok argBase) →
      ∃ type, schema.type? base.name = some type ∧ (type.kind = .object ↔ base.kind = .object)

def Schema.Backs (schema : Schema) (template : Template) : Prop :=
  ∃ type, schema.type? template.typeName = some type ∧
    decide (type.kind = .object) = template.isObject

/-- A template that a cache has for an endpoint, for a field of a type or of a root. -/
inductive SchemaCache.Offers (cache : SchemaCache) (endpoint : String) (template : Template) :
    Prop where
  | ofType (typeName : String) (templates : List Template)
      (h : cache.suggestions endpoint typeName = some templates) (hm : template ∈ templates)
  | ofRoot (kind : OperationKind) (templates : List Template)
      (h : cache.rootSuggestions endpoint kind = some templates) (hm : template ∈ templates)

namespace Template

/-- A field with a template has a base for each of its references, and the template carries
that of its type. -/
theorem ofField_ok (endpoint : String) (field : FieldDef) (template : Template)
    (h : ofField endpoint field = .ok template) :
    ∃ base, field.type.resolveBase = .ok base ∧
      (∀ arg ∈ field.args, ∃ argBase, arg.type.resolveBase = .ok argBase) ∧
      template.endpoint = endpoint ∧ template.typeName = base.name ∧
      template.isObject = decide (base.kind = .object) := by
  rw [ofField_iff] at h
  simp only [TypeRef.resolveBase_eq_ok]
  have hresolves := resolves_of_describes endpoint field template h
  obtain ⟨hendpoint, -, ⟨base, hb, htype, hobject⟩, -, -⟩ := h
  exact ⟨base, hb, hresolves.args, hendpoint, htype, by simp [← hobject]⟩

theorem mem_templates (endpoint : String) (type : TypeDef) (template : Template)
    (h : template ∈ type.templates endpoint) :
    ∃ field ∈ type.fields, ofField endpoint field = .ok template := by
  obtain ⟨field, hm, ht⟩ := List.mem_filterMap.mp h
  refine ⟨field, hm, ?_⟩
  change (ofField endpoint field).toOption = some template at ht
  cases hf : ofField endpoint field with
  | error cause =>
    rw [hf] at ht
    cases ht
  | ok found =>
    rw [hf] at ht
    cases ht
    rfl

end Template

namespace SchemaCache

variable (cache : SchemaCache) (endpoint : String)

/-- Whatever is offered comes from a field of a type of the cached schema. -/
theorem offers_mem (template : Template) (h : cache.Offers endpoint template) :
    ∃ schema, cache.get? endpoint = some schema ∧
      ∃ entry ∈ schema.types.entries, template ∈ entry.2.templates endpoint := by
  cases h with
  | ofType typeName templates h hm =>
    obtain ⟨schema, hs, h⟩ := Option.bind_eq_some_iff.mp h
    obtain ⟨type, ht, h⟩ := Option.bind_eq_some_iff.mp h
    cases h
    exact ⟨schema, hs, (typeName, type), mem_of_lookup typeName type _ ht, hm⟩
  | ofRoot kind templates h hm =>
    obtain ⟨schema, hs, h⟩ := Option.bind_eq_some_iff.mp h
    obtain ⟨type, ht, h⟩ := Option.bind_eq_some_iff.mp h
    cases h
    cases kind with
    | query => exact ⟨schema, hs, (_, type), mem_of_lookup _ type _ ht, hm⟩
    | mutation =>
      obtain ⟨name, -, ht⟩ := Option.bind_eq_some_iff.mp ht
      exact ⟨schema, hs, (name, type), mem_of_lookup name type _ ht, hm⟩

/-- A consistent schema backs whatever its cache offers. -/
theorem backs_of_offers (schema : Schema) (hs : cache.get? endpoint = some schema)
    (hc : schema.Consistent) (template : Template) (h : cache.Offers endpoint template) :
    template.endpoint = endpoint ∧ schema.Backs template := by
  obtain ⟨found, hf, entry, he, ht⟩ := cache.offers_mem endpoint template h
  rw [hs] at hf
  cases hf
  obtain ⟨field, hm, ho⟩ := Template.mem_templates endpoint entry.2 template ht
  obtain ⟨base, hb, ha, hend, hname, hobject⟩ := Template.ofField_ok endpoint field template ho
  obtain ⟨type, htype, hk⟩ := hc entry he field hm base hb ha
  refine ⟨hend, type, hname ▸ htype, ?_⟩
  rw [hobject, decide_eq_decide]
  exact hk

theorem suggestions_eq (schema : Schema) (typeName : String) (type : TypeDef)
    (hs : cache.get? endpoint = some schema) (ht : schema.type? typeName = some type) :
    cache.suggestions endpoint typeName = some (type.templates endpoint) := by
  simp [suggestions, hs, ht]

end SchemaCache

end QueryBlocks
