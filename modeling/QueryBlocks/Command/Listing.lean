import QueryBlocks.Display.Table
import QueryBlocks.Json.Printer
import QueryBlocks.Schema.Template

/-!
# Listings

Schemas and templates as they are shown: as tables, or as JSON with all there is.
-/

set_option autoImplicit false

namespace QueryBlocks

def TypeDef.summary (type : TypeDef) : Json :=
  .ofMembers
    [("name", .string type.name), ("kind", type.kind.toJson),
      ("fields", .array (type.fields.map fun field => .string field.name)),
      ("description", Json.optional .string type.description)]

namespace Schema

def typeList (schema : Schema) : List TypeDef := schema.types.entries.map Prod.snd

def listingJson (schema : Schema) : String :=
  (Json.ofMembers
    [("queryType", .string schema.queryType),
      ("mutationType", Json.optional .string schema.mutationType),
      ("types", .array (schema.typeList.map TypeDef.summary))]).pretty

def ownTypes (schema : Schema) : List TypeDef :=
  schema.typeList.filter fun type => !type.name.startsWith "__"

def listingTable (schema : Schema) : String :=
  Table.render
    (["Type", "Kind", "Fields"] ::
      schema.ownTypes.map fun type => [type.name, type.kind.name, toString type.fields.length])

def listing (schema : Schema) : List String :=
  ["Query root: " ++ schema.queryType,
    "Mutation root: " ++ schema.mutationType.getD "(none)",
    schema.listingTable,
    "Total: " ++ toString schema.typeCount]

end Schema

namespace Template

def parameterText (parameter : TemplateParameter) : String :=
  parameter.name ++ ": " ++ parameter.typeName ++
    parameter.primitive.elim "" fun primitive => " (" ++ primitive.tag ++ ")"

def row (template : Template) : List String :=
  [template.field, template.typeName, if template.isObject then "object" else "scalar",
    ", ".intercalate (template.parameters.map parameterText), template.description.getD ""]

def listingJson (templates : List Template) : String :=
  (Json.array (templates.map Template.toJson)).pretty

def listing (templates : List Template) : String :=
  if templates.isEmpty then "No fields."
  else
    Table.render (["Field", "Type", "Block", "Arguments", "Description"] :: templates.map row)

end Template

end QueryBlocks
