import QueryBlocks.Json.Basic
import QueryBlocks.Number.Notation

/-!
# JSON text

Compact text, and text laid out over lines with two blanks per level.
-/

set_option autoImplicit false

namespace QueryBlocks

def Decimal.jsonText (d : Decimal) : List Char :=
  let count := d.digits.length
  if count ≤ d.point ∧ d.point ≤ 16 then
    d.digits ++ List.replicate (d.point.toNat - count) '0' ++ ['.', '0']
  else if -5 < d.point ∧ d.point ≤ 16 then d.positional
  else
    let exponent := d.point - 1
    let mantissa := match d.digits with
      | first :: second :: rest => first :: '.' :: second :: rest
      | digits => digits
    let sign := if exponent < 0 then '-' else '+'
    mantissa ++ 'e' :: sign :: Nat.toDigits 10 exponent.natAbs

def Binary64.jsonText : Binary64 → String
  | .nan => "null"
  | .infinite _ => "null"
  | .finite negative units _ =>
    String.ofList (signText negative ++
      if units = 0 then ['0', '.', '0'] else (shortest .even units).jsonText)

namespace Json

def hexDigit (n : Nat) : Char := (Nat.digitChar n)

def escape (c : Char) : String :=
  if c = '"' then "\\\""
  else if c = '\\' then "\\\\"
  else if c = '\n' then "\\n"
  else if c = '\r' then "\\r"
  else if c = '\t' then "\\t"
  else if c.toNat = 8 then "\\b"
  else if c.toNat = 12 then "\\f"
  else if c.toNat < 32 then
    "\\u00" ++ String.ofList [hexDigit (c.toNat / 16), hexDigit (c.toNat % 16)]
  else String.singleton c

def quote (s : String) : String :=
  s.toList.foldl (fun text c => text ++ escape c) "\"" ++ "\""

mutual

def compact : Json → String
  | .null => "null"
  | .boolean value => if value then "true" else "false"
  | .integer value => toString value
  | .float value => value.jsonText
  | .string value => quote value
  | .array items => "[" ++ compactItems items ++ "]"
  | .object members => "\x7b" ++ compactMembers members ++ "\x7d"

def compactItems : List Json → String
  | [] => ""
  | [item] => compact item
  | item :: rest => compact item ++ "," ++ compactItems rest

def compactMembers : List (String × Json) → String
  | [] => ""
  | [(key, value)] => quote key ++ ":" ++ compact value
  | (key, value) :: rest => quote key ++ ":" ++ compact value ++ "," ++ compactMembers rest

end

def newline (level : Nat) : String := "\n" ++ String.ofList (List.replicate (2 * level) ' ')

mutual

def prettyAt (level : Nat) : Json → String
  | .array [] => "[]"
  | .object [] => "\x7b\x7d"
  | .array items => "[" ++ prettyItems (level + 1) items ++ newline level ++ "]"
  | .object members => "\x7b" ++ prettyMembers (level + 1) members ++ newline level ++ "\x7d"
  | .null => "null"
  | .boolean value => if value then "true" else "false"
  | .integer value => toString value
  | .float value => value.jsonText
  | .string value => quote value

def prettyItems (level : Nat) : List Json → String
  | [] => ""
  | [item] => newline level ++ prettyAt level item
  | item :: rest => newline level ++ prettyAt level item ++ "," ++ prettyItems level rest

def prettyMembers (level : Nat) : List (String × Json) → String
  | [] => ""
  | [(key, value)] => newline level ++ quote key ++ ": " ++ prettyAt level value
  | (key, value) :: rest =>
    newline level ++ quote key ++ ": " ++ prettyAt level value ++ "," ++ prettyMembers level rest

end

def pretty (value : Json) : String := prettyAt 0 value

end Json

end QueryBlocks
