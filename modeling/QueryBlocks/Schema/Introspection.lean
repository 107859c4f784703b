import QueryBlocks.Schema.Basic

/-!
# Introspection

The document that asks an endpoint for its types, and the reading of the answer: an envelope
with errors or data, the listing of types in the data, and the schema made of the listing.
-/

set_option autoImplicit false

namespace QueryBlocks.Introspection

open Json (Mismatch Member Read readString readOptional readList readRecord require)

def selection (heading : String) (lines : List String) : List String :=
  (heading ++ " \x7b") :: lines.map ("  " ++ ·) ++ ["\x7d"]

def referenceLines : Nat → List String
  | 0 => ["kind", "name"]
  | depth + 1 => ["kind", "name"] ++ selection "ofType" (referenceLines depth)

def fieldLines : List String :=
  ["name", "description"] ++
  selection "args" ["name", "type \x7b ...TypeRef \x7d"] ++
  ["type \x7b ...TypeRef \x7d"]

def typeLines : List String :=
  ["kind", "name", "description"] ++ selection "fields(includeDeprecated: true)" fieldLines

def queryLines : List String :=
  selection "query IntrospectionQuery"
    (selection "__schema"
      (["queryType \x7b name \x7d", "mutationType \x7b name \x7d"] ++
        selection "types" typeLines))

/-- The introspection document. References go seven layers deep. -/
def document : String :=
  String.join ((queryLines ++ [""] ++ selection "fragment TypeRef on __Type" (referenceLines 7)).map
    (· ++ "\n"))

inductive Malformation where
  | noDataNorErrors
  | mismatch (cause : Mismatch)
  | duplicateType (name : String)

def Malformation.message : Malformation → String
  | .noDataNorErrors => "response has neither data nor errors"
  | .mismatch cause => cause.message Binary64.jsonText
  | .duplicateType name => "duplicate type `" ++ name ++ "`"

inductive Problem where
  | errors (messages : List String)
  | malformed (cause : Malformation)

/-- The outer members of an answer; an error need not have a message. -/
structure Envelope where
  data : Option Json
  errors : Option (List (Option String))

def readErrorEntry : Read (Option String) :=
  readRecord "ErrorEntry"
    [{ name := "message", read := fun v _ => readOptional readString v, defaulted := true }]
    none .ok

def readPresent : Read (Option Json)
  | .null => .ok none
  | value => .ok (some value)

def readEnvelope : Read Envelope :=
  readRecord "Envelope"
    [{ name := "data"
       read := fun v e => do return { e with data := ← readPresent v }
       defaulted := true },
     { name := "errors"
       read := fun v e => do return { e with errors := ← readOptional (readList readErrorEntry) v }
       defaulted := true }]
    { data := none, errors := none } .ok

structure ArgParts where
  name : Option String
  type : Option TypeRef

def readArg : Read ArgDef :=
  readRecord "RawArg"
    [{ name := "name"
       read := fun v p => do return { p with name := some (← readString v) }
       defaulted := false },
     { name := "type"
       read := fun v p => do return { p with type := some (← TypeRef.read v) }
       defaulted := false }]
    ({ name := none, type := none } : ArgParts)
    fun p => do
      let name ← require "name" p.name
      return { name, type := ← require "type" p.type }

structure FieldParts where
  name : Option String
  description : Option String
  args : List ArgDef
  type : Option TypeRef

def readField : Read FieldDef :=
  readRecord "RawField"
    [{ name := "name"
       read := fun v p => do return { p with name := some (← readString v) }
       defaulted := false },
     { name := "description"
       read := fun v p => do return { p with description := ← readOptional readString v }
       defaulted := true },
     { name := "args"
       read := fun v p => do return { p with args := ← readList readArg v }
       defaulted := true },
     { name := "type"
       read := fun v p => do return { p with type := some (← TypeRef.read v) }
       defaulted := false }]
    ({ name := none, description := none, args := [], type := none } : FieldParts)
    fun p => do
      let name ← require "name" p.name
      let type ← require "type" p.type
      return { name, type, args := p.args, description := p.description }

structure ListedType where
  kind : TypeKind
  name : String
  description : Option String
  fields : Option (List FieldDef)

structure TypeParts where
  kind : Option TypeKind
  name : Option String
  description : Option String
  fields : Option (List FieldDef)

def readType : Read ListedType :=
  readRecord "RawType"
    [{ name := "kind"
       read := fun v p => do return { p with kind := some (← TypeKind.read v) }
       defaulted := false },
     { name := "name"
       read := fun v p => do return { p with name := some (← readString v) }
       defaulted := false },
     { name := "description"
       read := fun v p => do return { p with description := ← readOptional readString v }
       defaulted := true },
     { name := "fields"
       read := fun v p => do return { p with fields := ← readOptional (readList readField) v }
       defaulted := true }]
    ({ kind := none, name := none, description := none, fields := none } : TypeParts)
    fun p => do
      let kind ← require "kind" p.kind
      let name ← require "name" p.name
      return { kind, name, description := p.description, fields := p.fields }

def readRoot : Read String :=
  readRecord "RawRoot"
    [{ name := "name", read := fun v _ => (readString v).map some, defaulted := false }]
    none (require "name")

structure Listing where
  queryType : String
  mutationType : Option String
  types : List ListedType

structure ListingParts where
  queryType : Option String
  mutationType : Option String
  types : Option (List ListedType)

def readListing : Read Listing :=
  readRecord "RawSchema"
    [{ name := "queryType"
       read := fun v p => do return { p with queryType := some (← readRoot v) }
       defaulted := false },
     { name := "mutationType"
       read := fun v p => do return { p with mutationType := ← readOptional readRoot v }
       defaulted := true },
     { name := "types"
       read := fun v p => do return { p with types := some (← readList readType v) }
       defaulted := false }]
    ({ queryType := none, mutationType := none, types := none } : ListingParts)
    fun p => do
      let queryType ← require "queryType" p.queryType
      let types ← require "types" p.types
      return { queryType, mutationType := p.mutationType, types }

def readData : Read Listing :=
  readRecord "IntrospectionData"
    [{ name := "__schema", read := fun v _ => (readListing v).map some, defaulted := false }]
    none (require "__schema")

def ListedType.toTypeDef (listed : ListedType) : TypeDef :=
  { name := listed.name
    kind := listed.kind
    fields := if listed.kind.hasFields then listed.fields.getD [] else []
    description := listed.description }

def addTypes : List ListedType → Catalog TypeDef → Except Malformation (Catalog TypeDef)
  | [], types => .ok types
  | listed :: rest, types =>
    match types.add? listed.name listed.toTypeDef with
    | some types => addTypes rest types
    | none => .error (.duplicateType listed.name)

def Listing.toSchema (listing : Listing) : Except Malformation Schema := do
  let types ← addTypes listing.types .empty
  return { queryType := listing.queryType, mutationType := listing.mutationType, types }

def unknownError : String := "unknown error"

/-- The schema of an answer. Errors win over data; an empty list of errors counts as none. -/
def parse (body : Json) : Except Problem Schema :=
  match readEnvelope body with
  | .error cause => .error (.malformed (.mismatch cause))
  | .ok envelope =>
    match envelope.errors, envelope.data with
    | some (first :: rest), _ =>
      .error (.errors ((first :: rest).map fun message => message.getD unknownError))
    | _, none => .error (.malformed .noDataNorErrors)
    | _, some data =>
      match readData data with
      | .error cause => .error (.malformed (.mismatch cause))
      | .ok listing => listing.toSchema.mapError .malformed

end QueryBlocks.Introspection
