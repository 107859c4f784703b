import QueryBlocks.Json.Record
import QueryBlocks.Toml.Fault

/-!
# Values with their places

The values of a document keep where they stand, so that whoever reads them further can point at
the one that is not what was expected.
-/

set_option autoImplicit false

namespace QueryBlocks.Toml

structure Key where
  name : String
  span : Span

inductive Value where
  | plain (span : Span) (value : Json)
  | array (span : Span) (items : List Value)
  | table (span : Span) (entries : List (String × Value))

namespace Value

def span : Value → Span
  | .plain span _ | .array span _ | .table span _ => span

mutual

def toJson : Value → Json
  | .plain _ value => value
  | .array _ items => .array (itemsToJson items)
  | .table _ entries => .ofMembers (entriesToJson entries)

def itemsToJson : List Value → List Json
  | [] => []
  | item :: rest => item.toJson :: itemsToJson rest

def entriesToJson : List (String × Value) → List (String × Json)
  | [] => []
  | (key, value) :: rest => (key, value.toJson) :: entriesToJson rest

end

def at? : Value → Json.PathStep → Option Value
  | .array _ items, .item index => items[index]?
  | .table _ entries, .member name => entries.lookup name
  | _, _ => none

def spanAt (value : Value) : List Json.PathStep → Span
  | [] => value.span
  | step :: path =>
    match value.at? step with
    | some inner => inner.spanAt path
    | none => value.span

def typeName : Value → String
  | .plain _ (.boolean _) => "boolean"
  | .plain _ (.integer _) => "integer"
  | .plain _ (.float _) => "float"
  | .plain _ (.string _) => "string"
  | .plain _ _ => "datetime"
  | .array _ _ => "array"
  | .table _ _ => "inline table"

end Value

end QueryBlocks.Toml
