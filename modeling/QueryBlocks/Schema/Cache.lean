import QueryBlocks.Data.Dictionary
import QueryBlocks.Schema.Introspection
import QueryBlocks.Schema.Template
import QueryBlocks.Transport.Error

/-!
# The schema cache

The latest schema of each endpoint. A load replaces an endpoint's entry when the endpoint
answers with a schema and leaves the cache alone otherwise.
-/

set_option autoImplicit false

namespace QueryBlocks

inductive FetchError where
  | transport (cause : TransportError)
  | malformed (endpoint : String) (cause : Introspection.Malformation)

def FetchError.message : FetchError → String
  | .transport cause => cause.message
  | .malformed endpoint cause =>
    "malformed introspection response from " ++ endpoint ++ ": " ++ cause.message

structure SchemaError where
  endpoint : String
  messages : List String
deriving DecidableEq

def SchemaError.message (e : SchemaError) : String :=
  e.endpoint ++ " reported schema errors: " ++ "; ".intercalate e.messages

inductive CacheError where
  | fetch (cause : FetchError)
  | schema (cause : SchemaError)

def CacheError.message : CacheError → String
  | .fetch cause => cause.message
  | .schema cause => cause.message

inductive FetchOutcome where
  | loaded (schema : Schema)
  | transportFailed (cause : FetchError)
  | schemaErrors (cause : SchemaError)

def FetchOutcome.toExcept : FetchOutcome → Except CacheError Schema
  | .loaded schema => .ok schema
  | .transportFailed cause => .error (.fetch cause)
  | .schemaErrors cause => .error (.schema cause)

def FetchOutcome.ofAnswer (endpoint : String) (answer : Answer) : FetchOutcome :=
  match answer with
  | .error cause => .transportFailed (.transport cause)
  | .ok body =>
    match Introspection.parse body with
    | .ok schema => .loaded schema
    | .error (.errors messages) => .schemaErrors { endpoint, messages }
    | .error (.malformed cause) => .transportFailed (.malformed endpoint cause)

structure SchemaCache where
  schemas : Dictionary Schema

namespace SchemaCache

def empty : SchemaCache := { schemas := .empty }

def get? (cache : SchemaCache) (endpoint : String) : Option Schema := cache.schemas.find? endpoint

def insert (cache : SchemaCache) (endpoint : String) (schema : Schema) : SchemaCache :=
  { schemas := cache.schemas.insert endpoint schema }

def remove (cache : SchemaCache) (endpoint : String) : SchemaCache :=
  { schemas := cache.schemas.erase endpoint }

def contains (cache : SchemaCache) (endpoint : String) : Bool := cache.schemas.contains endpoint

def endpoints (cache : SchemaCache) : List String := cache.schemas.names

def load (cache : SchemaCache) (endpoint : String) (answer : Answer) : FetchOutcome × SchemaCache :=
  match FetchOutcome.ofAnswer endpoint answer with
  | .loaded schema => (.loaded schema, cache.insert endpoint schema)
  | failure => (failure, cache)

def suggestions (cache : SchemaCache) (endpoint typeName : String) : Option (List Template) := do
  let schema ← cache.get? endpoint
  let type ← schema.type? typeName
  return type.templates endpoint

def rootSuggestions (cache : SchemaCache) (endpoint : String) (kind : OperationKind) :
    Option (List Template) := do
  let schema ← cache.get? endpoint
  let type ← schema.root? kind
  return type.templates endpoint

end SchemaCache

end QueryBlocks
