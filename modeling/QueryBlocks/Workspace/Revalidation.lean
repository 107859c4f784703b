import QueryBlocks.Block.Basic
import QueryBlocks.Schema.Cache

/-!
# Revalidating a block

A block is held against the schema that the cache has for its endpoint. Its type must be
there and be an object type exactly if the block is an object. Only the block's state and
the description of its type may change.
-/

set_option autoImplicit false

namespace QueryBlocks

inductive Revalidation where
  | noSchema
  | stale (condition : Condition)
  | bound (suggestions : List Template)
deriving DecidableEq

def Schema.typeOf (schema : Schema) (isObject : Bool) (header : Header) :
    Except Condition TypeDef :=
  match schema.type? header.typeName with
  | none => .error (.typeRemoved header.endpoint header.typeName)
  | some type =>
    if decide (type.kind = .object) = isObject then .ok type
    else .error (.kindMismatch header.typeName isObject type.kind)

namespace SchemaCache

def revalidateHeader (cache : SchemaCache) (isObject : Bool) (header : Header) :
    Revalidation × Header :=
  match cache.get? header.endpoint with
  | none => (.noSchema, header)
  | some schema =>
    match schema.typeOf isObject header with
    | .error condition => (.stale condition, { header with state := .stale condition })
    | .ok type =>
      (.bound (if isObject then type.templates header.endpoint else []),
        { header with state := .bound, typeDescription := type.description })

def revalidate (cache : SchemaCache) (block : Block) : Revalidation × Block :=
  ((cache.revalidateHeader block.isObject block.header).1,
    block.mapHeader fun header => (cache.revalidateHeader block.isObject header).2)

end SchemaCache

end QueryBlocks
