import QueryBlocks.Schema.Basic

/-!
# Templates

A template says all that is needed to make a block for a field. The fields of a type offer
their templates lazily, in the order of declaration; a field whose own type or one of whose
argument types has no base offers none.
-/

set_option autoImplicit false

namespace QueryBlocks

structure TemplateParameter where
  name : String
  typeName : String
  primitive : Option Primitive
deriving DecidableEq

structure Template where
  endpoint : String
  field : String
  typeName : String
  isObject : Bool
  parameters : List TemplateParameter
  description : Option String
deriving DecidableEq

def TemplateParameter.ofArg (arg : ArgDef) : Except UnresolvableType TemplateParameter := do
  let base ← arg.type.resolveBase
  return { name := arg.name, typeName := base.name, primitive := Primitive.ofBase base }

namespace Template

def ofField (endpoint : String) (field : FieldDef) : Except UnresolvableType Template := do
  let base ← field.type.resolveBase
  let parameters ← field.args.mapM TemplateParameter.ofArg
  return { endpoint, field := field.name, typeName := base.name, isObject := base.kind = .object
           parameters, description := field.description }

def toJson (template : Template) : Json :=
  .object
    [("base_type_name", .string template.typeName),
     ("description", Json.optional .string template.description),
     ("endpoint", .string template.endpoint),
     ("field_name", .string template.field),
     ("is_object", .boolean template.isObject),
     ("parameters", .array (template.parameters.map fun p => .object
       [("name", .string p.name),
        ("primitive", Json.optional (fun primitive => .string primitive.tag) p.primitive),
        ("type_name", .string p.typeName)]))]

end Template

/-- A pass over the fields of a type: those not looked at yet. -/
structure Suggestions where
  endpoint : String
  fields : List FieldDef

namespace Suggestions

def start (endpoint : String) (type : TypeDef) : Suggestions :=
  { endpoint, fields := type.fields }

def next (pass : Suggestions) : Option Template × Suggestions :=
  go pass.fields
where
  go : List FieldDef → Option Template × Suggestions
    | [] => (none, { endpoint := pass.endpoint, fields := [] })
    | field :: rest =>
      match Template.ofField pass.endpoint field with
      | .ok template => (some template, { endpoint := pass.endpoint, fields := rest })
      | .error _ => go rest

def sizeHint (pass : Suggestions) : Nat × Nat := (0, pass.fields.length)

def toList (pass : Suggestions) : List Template :=
  pass.fields.filterMap fun field => (Template.ofField pass.endpoint field).toOption

end Suggestions

def TypeDef.templates (type : TypeDef) (endpoint : String) : List Template :=
  (Suggestions.start endpoint type).toList

end QueryBlocks
