import QueryBlocks.Block.Basic
import QueryBlocks.Text.Blank

/-!
# Literals

The literal of a bound value in a query, and string literals of the host that runs a plan.
-/

set_option autoImplicit false

namespace QueryBlocks

namespace Literal

def upperHex (n : Nat) : Char := (Nat.digitChar n).toUpper

def unicodeEscape (c : Char) : List Char :=
  ['\\', 'u', '0', '0', upperHex (c.toNat / 16), upperHex (c.toNat % 16)]

def escapeInQuery (c : Char) : List Char :=
  if c = '"' then ['\\', '"']
  else if c = '\\' then ['\\', '\\']
  else if c = '\n' then ['\\', 'n']
  else if c = '\r' then ['\\', 'r']
  else if c = '\t' then ['\\', 't']
  else if Text.isControl c then unicodeEscape c
  else [c]

def quoteInQuery (s : String) : String :=
  String.ofList ('"' :: s.toList.flatMap escapeInQuery ++ ['"'])

def escapeInHost (c : Char) : List Char :=
  if c = '"' then ['\\', '"']
  else if c = '\\' then ['\\', '\\']
  else if c = '\n' then ['\\', 'n']
  else [c]

def quoteInHost (s : String) : String :=
  String.ofList ('"' :: s.toList.flatMap escapeInHost ++ ['"'])

def null : String := "null"

end Literal

def BoundValue.literal : BoundValue → String
  | .text value => Literal.quoteInQuery value
  | .number value => value.toString
  | .boolean value => if value then "true" else "false"
  | .enum name => name

end QueryBlocks
