import QueryBlocks.Number.Binary64
import QueryBlocks.Text.Order

/-!
# JSON values

Objects keep their members sorted by key, one member per key.
-/

set_option autoImplicit false

namespace QueryBlocks

inductive Json where
  | null
  | boolean (value : Bool)
  | integer (value : Int)
  | float (value : Binary64)
  | string (value : String)
  | array (items : List Json)
  | object (members : List (String × Json))

namespace Json

instance : Inhabited Json := ⟨.null⟩

def insertMember (key : String) (value : Json) : List (String × Json) → List (String × Json)
  | [] => [(key, value)]
  | (k, v) :: rest =>
    if key = k then (key, value) :: rest
    else if Text.precedes key k then (key, value) :: (k, v) :: rest
    else (k, v) :: insertMember key value rest

/-- The object with the given members; of two with one key the later counts. -/
def ofMembers (members : List (String × Json)) : Json :=
  .object (members.foldl (fun sorted m => insertMember m.1 m.2 sorted) [])

def findMember (key : String) : List (String × Json) → Option Json
  | [] => none
  | (k, v) :: rest => if k = key then some v else findMember key rest

def get? (key : String) : Json → Option Json
  | .object members => findMember key members
  | _ => none

def optional {α : Type} (encode : α → Json) : Option α → Json
  | none => .null
  | some value => encode value

end Json

end QueryBlocks
