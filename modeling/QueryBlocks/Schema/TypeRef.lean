import QueryBlocks.Json.Record

/-!
# Types and references to them

A type reference names a type, possibly under layers of lists and non-null marks. What a
block needs of it is the name and kind at its base.
-/

set_option autoImplicit false

namespace QueryBlocks

open Json (Mismatch Read)

inductive TypeKind where
  | scalar
  | object
  | interface
  | union
  | enum
  | inputObject
  | list
  | nonNull
deriving DecidableEq

namespace TypeKind

def all : List TypeKind :=
  [.scalar, .object, .interface, .union, .enum, .inputObject, .list, .nonNull]

def name : TypeKind → String
  | .scalar => "SCALAR"
  | .object => "OBJECT"
  | .interface => "INTERFACE"
  | .union => "UNION"
  | .enum => "ENUM"
  | .inputObject => "INPUT_OBJECT"
  | .list => "LIST"
  | .nonNull => "NON_NULL"

def isWrapping : TypeKind → Bool
  | .list | .nonNull => true
  | _ => false

def hasFields : TypeKind → Bool
  | .object | .interface => true
  | _ => false

def ofName? (name : String) : Option TypeKind := all.find? fun kind => kind.name == name

def readName (name : String) : Except Mismatch TypeKind :=
  match ofName? name with
  | some kind => .ok kind
  | none => .error (.unknownVariant name (all.map TypeKind.name))

def read : Read TypeKind
  | .string name => readName name
  | .object [(name, value)] => do
    let kind ← readName name
    match value with
    | .null => .ok kind
    | other => .error (.wrongType other "unit")
  | .object members => .error (.wrongValue (.object members) "map with a single key")
  | other => .error (.wrongType other "string or map")

def toJson (kind : TypeKind) : Json := .string kind.name

end TypeKind

/-- A reference without an inner reference, or a layer around one. Layers that a well-formed
schema does not have, such as a named list, can be written down too. -/
inductive TypeRef where
  | plain (kind : TypeKind) (name : Option String)
  | around (kind : TypeKind) (name : Option String) (inner : TypeRef)
deriving DecidableEq

namespace TypeRef

def kind : TypeRef → TypeKind
  | .plain kind _ => kind
  | .around kind _ _ => kind

def name : TypeRef → Option String
  | .plain _ name => name
  | .around _ name _ => name

def inner? : TypeRef → Option TypeRef
  | .plain _ _ => none
  | .around _ _ inner => some inner

def named (kind : TypeKind) (name : String) : TypeRef := .plain kind (some name)

def list (inner : TypeRef) : TypeRef := .around .list none inner

def nonNull (inner : TypeRef) : TypeRef := .around .nonNull none inner

def toJson : TypeRef → Json
  | .plain kind name =>
    .object [("kind", kind.toJson), ("name", Json.optional .string name), ("ofType", .null)]
  | .around kind name inner =>
    .object [("kind", kind.toJson), ("name", Json.optional .string name), ("ofType", inner.toJson)]

structure Parts where
  kind : Option TypeKind
  name : Option String
  inner : Option TypeRef

def Parts.none : Parts := { kind := .none, name := .none, inner := .none }

def Parts.finish (parts : Parts) : Except Mismatch TypeRef :=
  match parts.kind, parts.inner with
  | .none, _ => .error (.missingField "kind")
  | some kind, .none => .ok (.plain kind parts.name)
  | some kind, some inner => .ok (.around kind parts.name inner)

mutual

def read : Json → Except Mismatch TypeRef
  | .object members => do (← readMembers members .none).finish
  | .array items => do (← readItems items).finish
  | other => .error (.wrongType other "struct TypeRef")

def readMembers : List (String × Json) → Parts → Except Mismatch Parts
  | [], parts => .ok parts
  | (key, value) :: rest, parts =>
    if key = "kind" then do
      readMembers rest { parts with kind := some (← TypeKind.read value) }
    else if key = "name" then do
      readMembers rest { parts with name := ← Json.readOptional Json.readString value }
    else if key = "ofType" then
      match value with
      | .null => readMembers rest { parts with inner := .none }
      | _ => do readMembers rest { parts with inner := some (← read value) }
    else readMembers rest parts

def readItems : List Json → Except Mismatch Parts
  | [] => .error (.wrongLength 0 (Json.withElements "TypeRef" 3))
  | [kind] => do return { kind := some (← TypeKind.read kind), name := .none, inner := .none }
  | [kind, name] => do
    let kind ← TypeKind.read kind
    return { kind := some kind, name := ← Json.readOptional Json.readString name, inner := .none }
  | kind :: name :: inner :: rest => do
    let kind ← TypeKind.read kind
    let name ← Json.readOptional Json.readString name
    let inner ← match inner with
      | .null => .ok none
      | _ => do pure (some (← read inner))
    if rest.isEmpty then return { kind := some kind, name, inner }
    else .error (.wrongLength (rest.length + 3) "fewer elements in array")

end

end TypeRef

inductive UnresolvableType where
  | tooDeep
  | missingInner (kind : TypeKind)
  | unnamed (kind : TypeKind)
deriving DecidableEq

/-- The number of references that resolution looks at. -/
def maxWrappingDepth : Nat := 32

def UnresolvableType.message : UnresolvableType → String
  | .tooDeep => "type reference is still wrapped after " ++ toString maxWrappingDepth ++ " layers"
  | .missingInner kind => kind.name ++ " wrapper has no inner type"
  | .unnamed kind => kind.name ++ " type reference has no name"

structure BaseType where
  name : String
  kind : TypeKind
deriving DecidableEq

namespace TypeRef

def resolveWithin : Nat → TypeRef → Except UnresolvableType BaseType
  | 0, _ => .error .tooDeep
  | n + 1, ref =>
    if ref.kind.isWrapping then
      match ref.inner? with
      | some inner => resolveWithin n inner
      | none => .error (.missingInner ref.kind)
    else match ref.name with
      | some name => .ok { name, kind := ref.kind }
      | none => .error (.unnamed ref.kind)

def resolveBase (ref : TypeRef) : Except UnresolvableType BaseType :=
  resolveWithin maxWrappingDepth ref

end TypeRef

inductive Primitive where
  | number
  | text
  | boolean
deriving DecidableEq

namespace Primitive

def tag : Primitive → String
  | .number => "number"
  | .text => "text"
  | .boolean => "boolean"

def ofTag? (tag : String) : Option Primitive :=
  [Primitive.number, .text, .boolean].find? fun primitive => primitive.tag == tag

def ofBase (base : BaseType) : Option Primitive :=
  if base.kind ≠ .scalar then none
  else if base.name = "Int" ∨ base.name = "Float" then some .number
  else if base.name = "ID" ∨ base.name = "String" then some .text
  else if base.name = "Boolean" then some .boolean
  else none

end Primitive

end QueryBlocks
