import QueryBlocks.Plan.Literal

/-!
# Plans

A plan says how the text of a query is put together. It can be carried out here, or printed
as an expression for a host that carries it out.
-/

set_option autoImplicit false

namespace QueryBlocks

inductive Fragment where
  | literal (text : String)
  | null
  | value (bound : BoundValue)
  | append (parts : List Fragment) (coercions : List Primitive)

namespace Fragment

mutual

def isEmpty : Fragment → Bool
  | .literal text => text.isEmpty
  | .null => false
  | .value _ => false
  | .append parts _ => allEmpty parts

def allEmpty : List Fragment → Bool
  | [] => true
  | part :: rest => isEmpty part && allEmpty rest

end

mutual

def render : Fragment → String
  | .literal text => text
  | .null => Literal.null
  | .value bound => bound.literal
  | .append parts _ => renderParts parts

def renderParts : List Fragment → String
  | [] => ""
  | part :: rest => render part ++ renderParts rest

end

/-- A bound value for the host: numbers and truth values stand for themselves, other values
come as the text of their literal. -/
def hostValue : BoundValue → String
  | .number x => x.toString
  | .boolean b => if b then "#t" else "#f"
  | .text s => Literal.quoteInHost (BoundValue.text s).literal
  | .enum name => Literal.quoteInHost name

mutual

def hostCode : Fragment → String
  | .literal text => Literal.quoteInHost text
  | .null => Literal.quoteInHost Literal.null
  | .value bound => hostValue bound
  | .append parts coercions =>
    "(call-yail-primitive string-append (*list-for-runtime*" ++ hostParts parts ++ ") '(" ++
      " ".intercalate (coercions.map Primitive.tag) ++ ") \"join\")"

def hostParts : List Fragment → String
  | [] => ""
  | part :: rest => " " ++ hostCode part ++ hostParts rest

end

end Fragment

structure Compiled where
  fragment : Fragment
  coercions : List Primitive

def Compiled.render (compiled : Compiled) : String := compiled.fragment.render

end QueryBlocks
