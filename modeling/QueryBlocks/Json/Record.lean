import QueryBlocks.Json.Printer
import QueryBlocks.Text.Quoted

/-!
# Reading records

A record is read from an object member by member in the order of the keys, or from an array
in the order in which the record declares its members. The first problem is the one
reported; members that are missing are reported last, in the order of declaration.
-/

set_option autoImplicit false

namespace QueryBlocks.Json

inductive PathStep where
  | member (name : String)
  | item (index : Nat)
deriving DecidableEq

inductive Mismatch where
  | missingField (name : String)
  | wrongType (found : Json) (expected : String)
  | wrongValue (found : Json) (expected : String)
  | unknownVariant (name : String) (expected : List String)
  | wrongLength (length : Nat) (expected : String)
  | inside (step : PathStep) (cause : Mismatch)

/-- Integers that need more than 64 bits are shown with the type that holds them. -/
def isWide (value : Int) : Bool :=
  value < -(Nat.pow 2 63 : Int) || (Nat.pow 2 64 : Int) ≤ value

def widthNote (value : Int) : String :=
  if !isWide value then ""
  else if value < (Nat.pow 2 127 : Int) then " as i128"
  else " as u128"

def describe (floatText : Binary64 → String) : Json → String
  | .null => "null"
  | .boolean value => "boolean `" ++ (if value then "true" else "false") ++ "`"
  | .integer value => "integer `" ++ toString value ++ "`" ++ widthNote value
  | .float value => "floating point `" ++ floatText value ++ "`"
  | .string value => "string " ++ Text.quoted value
  | .array _ => "sequence"
  | .object _ => "map"

def oneOf (names : List String) : String :=
  match names with
  | [] => "there are no variants"
  | [name] => "expected `" ++ name ++ "`"
  | [first, second] => "expected `" ++ first ++ "` or `" ++ second ++ "`"
  | names => "expected one of " ++ ", ".intercalate (names.map fun name => "`" ++ name ++ "`")

/-- The wording of a mismatch; `floatText` is how the format at hand writes floats. -/
def Mismatch.message (floatText : Binary64 → String) : Mismatch → String
  | .missingField name => "missing field `" ++ name ++ "`"
  | .wrongType found expected =>
    "invalid type: " ++ describe floatText found ++ ", expected " ++ expected
  | .wrongValue found expected =>
    "invalid value: " ++ describe floatText found ++ ", expected " ++ expected
  | .unknownVariant name expected => "unknown variant `" ++ name ++ "`, " ++ oneOf expected
  | .wrongLength length expected =>
    "invalid length " ++ toString length ++ ", expected " ++ expected
  | .inside _ cause => cause.message floatText

def Mismatch.path : Mismatch → List PathStep
  | .inside step cause => step :: cause.path
  | _ => []

def Mismatch.foundWide : Mismatch → Bool
  | .wrongType (.integer value) _ => isWide value
  | .inside _ cause => cause.foundWide
  | _ => false

def within {α : Type} (step : PathStep) (result : Except Mismatch α) : Except Mismatch α :=
  result.mapError (.inside step)

abbrev Read (α : Type) := Json → Except Mismatch α

def readString : Read String
  | .string value => .ok value
  | other => .error (.wrongType other "a string")

def readOptional {α : Type} (read : Read α) : Read (Option α)
  | .null => .ok none
  | other => (read other).map some

def readItems {α : Type} (read : Read α) : Nat → List Json → Except Mismatch (List α)
  | _, [] => .ok []
  | index, value :: rest => do
    let first ← within (.item index) (read value)
    return first :: (← readItems read (index + 1) rest)

def readList {α : Type} (read : Read α) : Read (List α)
  | .array items => readItems read 0 items
  | other => .error (.wrongType other "a sequence")

structure Member (σ : Type) where
  name : String
  read : Json → σ → Except Mismatch σ
  defaulted : Bool

def readMembers {σ : Type} (declared : List (Member σ)) :
    List (String × Json) → σ → Except Mismatch σ
  | [], record => .ok record
  | (key, value) :: rest, record =>
    match declared.find? fun m => m.name == key with
    | none => readMembers declared rest record
    | some m => do
      readMembers declared rest (← within (.member key) (m.read value record))

def withElements (label : String) (count : Nat) : String :=
  "struct " ++ label ++ " with " ++ toString count ++
    (if count = 1 then " element" else " elements")

def readElements {σ : Type} (label : String) (total : Nat) (declared : List (Member σ)) :
    List (Member σ) → List Json → σ → Except Mismatch σ
  | [], [], record => .ok record
  | [], _ :: _, _ => .error (.wrongLength total "fewer elements in array")
  | m :: rest, [], record =>
    if m.defaulted then readElements label total declared rest [] record
    else .error (.wrongLength (declared.length - rest.length - 1)
      (withElements label declared.length))
  | m :: rest, value :: values, record => do
    let index := declared.length - rest.length - 1
    readElements label total declared rest values (← within (.item index) (m.read value record))

def readRecord {σ α : Type} (label : String) (declared : List (Member σ)) (empty : σ)
    (finish : σ → Except Mismatch α) : Read α
  | .object members => do finish (← readMembers declared members empty)
  | .array items => do finish (← readElements label items.length declared declared items empty)
  | other => .error (.wrongType other ("struct " ++ label))

def require {α : Type} (name : String) : Option α → Except Mismatch α
  | some value => .ok value
  | none => .error (.missingField name)

end QueryBlocks.Json
