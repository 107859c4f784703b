import Mathlib.Data.List.Forall2
import QueryBlocks.Proofs.Json.Records
import QueryBlocks.Proofs.Schema.Layers
import QueryBlocks.Schema.Cache

/-!
# Passes over the fields of a type

What a pass over a type gives is told from the fields alone: one template for each field whose
references all have a base, in the order of declaration. A pass may be asked for the next
template, for bounds, for all that is left, and may be begun again, in any order; whatever was
asked before, what came out since it last began and what is left make up those templates.
-/

set_option autoImplicit false

namespace QueryBlocks

structure FieldDef.Resolves (field : FieldDef) : Prop where
  type : ∃ base, field.type.HasBase base
  args : ∀ arg ∈ field.args, ∃ base, arg.type.HasBase base

/-- The categories of the types: the built-in scalars have one, and nothing else has. -/
inductive BaseType.Falls : BaseType → Option Primitive → Prop where
  | int : Falls { name := "Int", kind := .scalar } (some .number)
  | float : Falls { name := "Float", kind := .scalar } (some .number)
  | id : Falls { name := "ID", kind := .scalar } (some .text)
  | string : Falls { name := "String", kind := .scalar } (some .text)
  | boolean : Falls { name := "Boolean", kind := .scalar } (some .boolean)
  | custom (name : String) (h : name ∉ ["Int", "Float", "ID", "String", "Boolean"]) :
      Falls { name, kind := .scalar } none
  | other (name : String) (kind : TypeKind) (h : kind ≠ .scalar) : Falls { name, kind } none

structure TemplateParameter.Describes (parameter : TemplateParameter) (arg : ArgDef) : Prop where
  ofName : parameter.name = arg.name
  ofBase : ∃ base, arg.type.HasBase base ∧ parameter.typeName = base.name ∧
    base.Falls parameter.primitive

structure Template.Describes (template : Template) (endpoint : String) (field : FieldDef) :
    Prop where
  ofEndpoint : template.endpoint = endpoint
  ofName : template.field = field.name
  ofBase : ∃ base, field.type.HasBase base ∧ template.typeName = base.name ∧
    (template.isObject = true ↔ base.kind = .object)
  ofArgs : List.Forall₂ (fun arg parameter => TemplateParameter.Describes parameter arg)
    field.args template.parameters
  ofDescription : template.description = field.description

theorem BaseType.falls_ofBase (base : BaseType) : base.Falls (Primitive.ofBase base) := by
  obtain ⟨name, kind⟩ := base
  by_cases hk : kind = .scalar
  · subst hk
    by_cases hn : name ∈ ["Int", "Float", "ID", "String", "Boolean"]
    · simp only [List.mem_cons, List.not_mem_nil, or_false] at hn
      rcases hn with rfl | rfl | rfl | rfl | rfl
      · exact .int
      · exact .float
      · exact .id
      · exact .string
      · exact .boolean
    · have hnone : Primitive.ofBase { name, kind := .scalar } = none := by
        simp_all [Primitive.ofBase]
      exact hnone ▸ .custom name hn
  · have hnone : Primitive.ofBase { name, kind } = none := by simp [Primitive.ofBase, hk]
    exact hnone ▸ .other name kind hk

theorem BaseType.falls_iff (base : BaseType) (primitive : Option Primitive) :
    base.Falls primitive ↔ primitive = Primitive.ofBase base := by
  constructor
  · intro h
    cases h with
    | custom name h => simp_all [Primitive.ofBase]
    | other name kind h => simp [Primitive.ofBase, h]
    | _ => rfl
  · rintro rfl
    exact base.falls_ofBase

namespace Template

variable (endpoint : String) (field : FieldDef)

theorem ofArg_iff (arg : ArgDef) (parameter : TemplateParameter) :
    TemplateParameter.ofArg arg = .ok parameter ↔ parameter.Describes arg := by
  constructor
  · intro h
    obtain ⟨base, hb, h⟩ := (Json.bind_eq_ok _ _ _).mp h
    cases h
    exact ⟨rfl, base, (arg.type.resolveBase_eq_ok base).mp hb, rfl, base.falls_ofBase⟩
  · rintro ⟨hname, base, hb, htype, hprimitive⟩
    rw [← TypeRef.resolveBase_eq_ok] at hb
    rw [BaseType.falls_iff] at hprimitive
    simp [TemplateParameter.ofArg, hb, ← hname, ← htype, ← hprimitive, bind, Except.bind, pure,
      Except.pure]

theorem mapM_ofArg_iff (args : List ArgDef) (parameters : List TemplateParameter) :
    args.mapM TemplateParameter.ofArg = .ok parameters ↔
      List.Forall₂ (fun arg parameter => TemplateParameter.Describes parameter arg)
        args parameters := by
  simp only [← ofArg_iff]
  induction args generalizing parameters with
  | nil => cases parameters <;> simp [pure, Except.pure]
  | cons arg rest ih =>
    rw [List.mapM_cons, Json.bind_eq_ok, List.forall₂_cons_left_iff]
    simp only [Json.bind_eq_ok, ih, pure, Except.pure, Except.ok.injEq]
    constructor
    · rintro ⟨first, hf, others, ho, rfl⟩
      exact ⟨first, others, hf, ho, rfl⟩
    · rintro ⟨first, others, hf, ho, rfl⟩
      exact ⟨first, hf, others, ho, rfl⟩

/-- The templates made are those that describe the field. -/
theorem ofField_iff (template : Template) :
    ofField endpoint field = .ok template ↔ template.Describes endpoint field := by
  constructor
  · intro h
    obtain ⟨base, hb, h⟩ := (Json.bind_eq_ok _ _ _).mp h
    obtain ⟨parameters, hp, h⟩ := (Json.bind_eq_ok _ _ _).mp h
    cases h
    exact ⟨rfl, rfl, ⟨base, (field.type.resolveBase_eq_ok base).mp hb, rfl, by simp⟩,
      (mapM_ofArg_iff _ _).mp hp, rfl⟩
  · rintro ⟨hendpoint, hname, ⟨base, hb, htype, hobject⟩, hargs, hdescription⟩
    have hdecide : template.isObject = decide (base.kind = .object) := by simp [← hobject]
    rw [← TypeRef.resolveBase_eq_ok] at hb
    rw [← mapM_ofArg_iff] at hargs
    simp [ofField, hb, hargs, ← hendpoint, ← hname, ← htype, ← hdescription, ← hdecide, bind,
      Except.bind, pure, Except.pure]

theorem exists_parameters (args : List ArgDef)
    (h : ∀ arg ∈ args, ∃ base, arg.type.HasBase base) :
    ∃ parameters, List.Forall₂ (fun arg parameter => TemplateParameter.Describes parameter arg)
      args parameters := by
  induction args with
  | nil => exact ⟨[], .nil⟩
  | cons arg rest ih =>
    obtain ⟨base, hb⟩ := h arg List.mem_cons_self
    obtain ⟨parameters, hp⟩ := ih fun other hm => h other (List.mem_cons_of_mem _ hm)
    exact ⟨⟨arg.name, base.name, Primitive.ofBase base⟩ :: parameters,
      .cons ⟨rfl, base, hb, rfl, base.falls_ofBase⟩ hp⟩

theorem args_resolve (args : List ArgDef) (parameters : List TemplateParameter)
    (h : List.Forall₂ (fun arg parameter => TemplateParameter.Describes parameter arg)
      args parameters) : ∀ arg ∈ args, ∃ base, arg.type.HasBase base := by
  induction h with
  | nil => simp
  | cons hd hrest ih =>
    obtain ⟨-, base, hb, -⟩ := hd
    simpa using ⟨⟨base, hb⟩, ih⟩

theorem resolves_of_describes (template : Template) (h : template.Describes endpoint field) :
    field.Resolves := by
  obtain ⟨-, -, ⟨base, hb, -⟩, hargs, -⟩ := h
  exact ⟨⟨base, hb⟩, args_resolve field.args template.parameters hargs⟩

/-- A field has a template exactly if all its references have a base. -/
theorem exists_describes_iff :
    (∃ template : Template, template.Describes endpoint field) ↔ field.Resolves := by
  constructor
  · rintro ⟨template, h⟩
    exact resolves_of_describes endpoint field template h
  · rintro ⟨⟨base, hb⟩, hargs⟩
    obtain ⟨parameters, hp⟩ := exists_parameters field.args hargs
    exact ⟨⟨endpoint, field.name, base.name, base.kind = .object, parameters, field.description⟩,
      rfl, rfl, ⟨base, hb, rfl, by simp⟩, hp, rfl⟩

end Template

inductive Covers (endpoint : String) : List FieldDef → List Template → Prop where
  | nil : Covers endpoint [] []
  | offered {field : FieldDef} {template : Template} {fields : List FieldDef}
      {templates : List Template} (h : template.Describes endpoint field)
      (rest : Covers endpoint fields templates) :
      Covers endpoint (field :: fields) (template :: templates)
  | skipped {field : FieldDef} {fields : List FieldDef} {templates : List Template}
      (h : ¬ field.Resolves) (rest : Covers endpoint fields templates) :
      Covers endpoint (field :: fields) templates

namespace Suggestions

variable (endpoint : String) (type : TypeDef)

/-- What is left of a pass is what covers the fields not looked at. -/
theorem covers_iff (fields : List FieldDef) (templates : List Template) :
    Covers endpoint fields templates ↔
      templates = ({ endpoint, fields } : Suggestions).toList := by
  constructor
  · intro h
    induction h with
    | nil => rfl
    | @offered field template fields templates h rest ih =>
      rw [← Template.ofField_iff] at h
      simpa [toList, h, Except.toOption] using ih
    | @skipped field fields templates h rest ih =>
      cases ho : Template.ofField endpoint field with
      | error cause => simpa [toList, ho, Except.toOption] using ih
      | ok template =>
        rw [Template.ofField_iff] at ho
        exact absurd ((Template.exists_describes_iff endpoint field).mp ⟨template, ho⟩) h
  · rintro rfl
    induction fields with
    | nil => exact .nil
    | cons field fields ih =>
      cases ho : Template.ofField endpoint field with
      | error cause =>
        have hr : ¬ field.Resolves := by
          simp [← Template.exists_describes_iff endpoint, ← Template.ofField_iff, ho]
        simpa [toList, ho, Except.toOption] using Covers.skipped hr ih
      | ok template =>
        have hd := (Template.ofField_iff endpoint field template).mp ho
        simpa [toList, ho, Except.toOption] using Covers.offered hd ih

/-- Looking for the next template takes the first off what is left. -/
theorem next_go (pass : Suggestions) (fields : List FieldDef) :
    let left := ({ pass with fields } : Suggestions).toList
    (next.go pass fields).1 = left.head? ∧ (next.go pass fields).2.toList = left.tail := by
  induction fields with
  | nil => simp [next.go, toList]
  | cons field fields ih =>
    cases ho : Template.ofField pass.endpoint field with
    | error cause => simpa [next.go, toList, ho, Except.toOption] using ih
    | ok template => simp [next.go, toList, ho, Except.toOption]

theorem next_eq_head? (pass : Suggestions) : pass.next.1 = pass.toList.head? :=
  (next_go pass pass.fields).1

theorem toList_next (pass : Suggestions) : pass.next.2.toList = pass.toList.tail :=
  (next_go pass pass.fields).2

theorem length_toList_le (pass : Suggestions) : pass.toList.length ≤ pass.fields.length :=
  List.length_filterMap_le _ _

inductive Drains : Suggestions → List Template → Prop where
  | done {pass : Suggestions} (h : pass.next.1 = none) : Drains pass []
  | more {pass rest : Suggestions} {template : Template} {templates : List Template}
      (h : pass.next = (some template, rest)) (hr : Drains rest templates) :
      Drains pass (template :: templates)

theorem drains_iff (pass : Suggestions) (templates : List Template) :
    Drains pass templates ↔ templates = pass.toList := by
  constructor
  · intro h
    induction h with
    | done h => simpa [next_eq_head?] using h
    | @more pass rest template templates h hr ih =>
      have hhead := next_eq_head? pass
      have htail := toList_next pass
      rw [h] at hhead htail
      rw [ih, List.eq_cons_of_mem_head? hhead.symm, htail]
  · rintro rfl
    generalize hl : pass.toList = left
    induction left generalizing pass with
    | nil => exact .done (by simp [next_eq_head?, hl])
    | cons template left ih =>
      have hhead : pass.next.1 = some template := by simp [next_eq_head?, hl]
      have htail : pass.next.2.toList = left := by simp [toList_next, hl]
      exact .more (Prod.ext hhead rfl) (ih pass.next.2 htail)

inductive Step where
  | next
  | bounds
  | collect
  | restart

inductive Reply where
  | found (template : Option Template)
  | bounds (low high : Nat)
  | collected (templates : List Template)
  | restarted

def advance (pass : Suggestions) : Step → Reply × Suggestions
  | .next => (.found pass.next.1, pass.next.2)
  | .bounds => (.bounds pass.sizeHint.1 pass.sizeHint.2, pass)
  | .collect => (.collected pass.toList, pass)
  | .restart => (.restarted, start endpoint type)

def run : List Step → Suggestions → List Reply × Suggestions
  | [], pass => ([], pass)
  | step :: steps, pass =>
    let (reply, pass) := advance endpoint type pass step
    let (replies, pass) := run steps pass
    (reply :: replies, pass)

def Reply.yields (before : List Template) : Reply → List Template
  | .found (some template) => before ++ [template]
  | .restarted => []
  | _ => before

def Reply.Fits (left : List Template) : Reply → Prop
  | .found template => template = left.head?
  | .bounds low high => low ≤ left.length ∧ left.length ≤ high
  | .collected templates => templates = left
  | .restarted => True

def FitsAll (all : List Template) : List Template → List Reply → Prop
  | _, [] => True
  | before, reply :: replies =>
    (∃ left, before ++ left = all ∧ reply.Fits left) ∧ FitsAll all (reply.yields before) replies

/-- A reply fits what was left, and takes from it what it yields. -/
theorem advance_fits (before : List Template) (pass : Suggestions)
    (h : before ++ pass.toList = type.templates endpoint) (step : Step) :
    (advance endpoint type pass step).1.Fits pass.toList ∧
      (advance endpoint type pass step).1.yields before ++
        (advance endpoint type pass step).2.toList = type.templates endpoint := by
  cases step with
  | next =>
    refine ⟨next_eq_head? pass, ?_⟩
    simp only [advance, next_eq_head?, toList_next]
    cases hl : pass.toList with
    | nil => simpa [Reply.yields, hl] using h
    | cons template left => simpa [Reply.yields, hl] using h
  | bounds => exact ⟨⟨Nat.zero_le _, length_toList_le pass⟩, h⟩
  | collect => exact ⟨rfl, h⟩
  | restart => exact ⟨trivial, rfl⟩

theorem run_fits (steps : List Step) (before : List Template) (pass : Suggestions)
    (h : before ++ pass.toList = type.templates endpoint) :
    FitsAll (type.templates endpoint) before (run endpoint type steps pass).1 ∧
      (run endpoint type steps pass).1.foldl Reply.yields before ++
        (run endpoint type steps pass).2.toList = type.templates endpoint := by
  -- what came out and what is left make up the whole before every step
  induction steps generalizing before pass with
  | nil => exact ⟨trivial, h⟩
  | cons step steps ih =>
    obtain ⟨hfits, hnext⟩ := advance_fits endpoint type before pass h step
    obtain ⟨hrest, hend⟩ := ih _ _ hnext
    exact ⟨⟨⟨pass.toList, h, hfits⟩, hrest⟩, hend⟩

/-- A pass with nothing left gives no template until it begins again. -/
theorem run_ended (steps : List Step) (pass : Suggestions) (h : pass.toList = [])
    (hs : Step.restart ∉ steps) (template : Option Template)
    (ht : .found template ∈ (run endpoint type steps pass).1) : template = none := by
  induction steps generalizing pass with
  | nil => simp [run] at ht
  | cons step steps ih =>
    simp only [List.mem_cons, not_or] at hs
    simp only [run, List.mem_cons] at ht
    have hrest : (advance endpoint type pass step).2.toList = [] := by
      cases step with
      | next => simp [advance, toList_next, h]
      | bounds => exact h
      | collect => exact h
      | restart => exact absurd rfl hs.1
    rcases ht with ht | ht
    · cases step with
      | next => simpa [advance, next_eq_head?, h] using ht
      | bounds => cases ht
      | collect => cases ht
      | restart => cases ht
    · exact ih _ hrest hs.2 ht

/-- What a pass over the type owes its user after any steps, if `all` are its templates. -/
structure Exact (all : List Template) (steps : List Step) : Prop where
  fits : FitsAll all [] (run endpoint type steps (start endpoint type)).1
  whole : ∃ left, Drains (run endpoint type steps (start endpoint type)).2 left ∧
    (run endpoint type steps (start endpoint type)).1.foldl Reply.yields [] ++ left = all
  ended : (run endpoint type steps (start endpoint type)).2.next.1 = none →
    ∀ more : List Step, .restart ∉ more → ∀ template,
      .found template ∈
        (run endpoint type more (run endpoint type steps (start endpoint type)).2.next.2).1 →
      template = none

theorem exact_run (steps : List Step) : Exact endpoint type (type.templates endpoint) steps := by
  obtain ⟨hfits, hwhole⟩ := run_fits endpoint type steps [] (start endpoint type) rfl
  refine ⟨hfits, ⟨_, (drains_iff _ _).mpr rfl, hwhole⟩, ?_⟩
  intro hnone more hm template ht
  rw [next_eq_head?, List.head?_eq_none_iff] at hnone
  exact run_ended endpoint type more _ (by simp [toList_next, hnone]) hm template ht

end Suggestions

/-- The templates of a type are those that cover its fields, one list and no other. A pass over
the type gives them exactly, whatever it is asked and however often it begins again, and so do
the lists that a cache has for the types it holds. -/
theorem suggestions_exact (endpoint : String) :
    (∀ type : TypeDef, ∃ all,
      (∀ templates, Covers endpoint type.fields templates ↔ templates = all) ∧
        ∀ steps, Suggestions.Exact endpoint type all steps) ∧
    ∀ (cache : SchemaCache) (templates : List Template),
      (∀ typeName, cache.suggestions endpoint typeName = some templates ↔
        ∃ schema type, cache.get? endpoint = some schema ∧ schema.type? typeName = some type ∧
          Covers endpoint type.fields templates) ∧
      ∀ kind, cache.rootSuggestions endpoint kind = some templates ↔
        ∃ schema type, cache.get? endpoint = some schema ∧ schema.root? kind = some type ∧
          Covers endpoint type.fields templates := by
  have hcovers : ∀ (type : TypeDef) (templates : List Template),
      Covers endpoint type.fields templates ↔ templates = type.templates endpoint :=
    fun type templates => Suggestions.covers_iff endpoint type.fields templates
  constructor
  · intro type
    exact ⟨type.templates endpoint, hcovers type, Suggestions.exact_run endpoint type⟩
  · intro cache templates
    simp [SchemaCache.suggestions, SchemaCache.rootSuggestions, hcovers,
      Option.bind_eq_some_iff, @eq_comm _ templates]

/-- A type with an argument of each category and one of none, and a field whose type never ends. -/
def dexType : TypeDef :=
  { name := "Query"
    kind := .object
    fields :=
      [{ name := "monster", type := .named .object "Monster", description := none
         args := [{ name := "id", type := .nonNull (.named .scalar "ID") },
           { name := "level", type := .named .scalar "Int" },
           { name := "habitat", type := .named .enum "Habitat" }] },
       { name := "lost", type := .plain .list none, args := [], description := none },
       { name := "known", type := .named .scalar "Boolean", description := some "Seen before"
         args := [{ name := "shiny", type := .named .scalar "Boolean" },
           { name := "since", type := .named .scalar "Date" }] }]
    description := none }

def monsterTemplate : Template :=
  { endpoint := "https://dex.example", field := "monster", typeName := "Monster", isObject := true
    parameters :=
      [{ name := "id", typeName := "ID", primitive := some .text },
       { name := "level", typeName := "Int", primitive := some .number },
       { name := "habitat", typeName := "Habitat", primitive := none }]
    description := none }

def knownTemplate : Template :=
  { endpoint := "https://dex.example", field := "known", typeName := "Boolean", isObject := false
    parameters :=
      [{ name := "shiny", typeName := "Boolean", primitive := some .boolean },
       { name := "since", typeName := "Date", primitive := none }]
    description := some "Seen before" }

theorem suggestions_exact_dexType :
    (∀ templates, Covers "https://dex.example" dexType.fields templates ↔
      templates = [monsterTemplate, knownTemplate]) ∧
    (∀ steps, Suggestions.Exact "https://dex.example" dexType [monsterTemplate, knownTemplate]
      steps) ∧
    (Suggestions.run "https://dex.example" dexType [.next, .bounds, .collect, .next, .next, .restart,
        .next] (Suggestions.start "https://dex.example" dexType)).1 =
      [.found (some monsterTemplate), .bounds 0 2, .collected [knownTemplate],
        .found (some knownTemplate), .found none, .restarted, .found (some monsterTemplate)] := by
  obtain ⟨all, hcovers, hexact⟩ := (suggestions_exact "https://dex.example").1 dexType
  have hall : [monsterTemplate, knownTemplate] = all :=
    (hcovers _).mp ((Suggestions.covers_iff "https://dex.example" dexType.fields _).mpr rfl)
  rw [← hall] at hcovers hexact
  exact ⟨hcovers, hexact, rfl⟩

end QueryBlocks
