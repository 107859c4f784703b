import QueryBlocks.Data.Catalog
import QueryBlocks.Schema.TypeRef

/-!
# Schemas

The types of one endpoint under their names, in the order in which the endpoint lists them.
-/

set_option autoImplicit false

namespace QueryBlocks

structure ArgDef where
  name : String
  type : TypeRef
deriving DecidableEq

structure FieldDef where
  name : String
  type : TypeRef
  args : List ArgDef
  description : Option String
deriving DecidableEq

structure TypeDef where
  name : String
  kind : TypeKind
  fields : List FieldDef
  description : Option String
deriving DecidableEq

def TypeDef.field? (type : TypeDef) (name : String) : Option FieldDef :=
  type.fields.find? fun field => field.name == name

inductive OperationKind where
  | query
  | mutation
deriving DecidableEq

def OperationKind.keyword : OperationKind → String
  | .query => "query"
  | .mutation => "mutation"

structure Schema where
  queryType : String
  mutationType : Option String
  types : Catalog TypeDef

namespace Schema

def type? (schema : Schema) (name : String) : Option TypeDef := schema.types.find? name

def root? (schema : Schema) : OperationKind → Option TypeDef
  | .query => schema.type? schema.queryType
  | .mutation => schema.mutationType.bind schema.type?

def typeCount (schema : Schema) : Nat := schema.types.size

end Schema

end QueryBlocks
