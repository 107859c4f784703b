import QueryBlocks.Text.Bytes
import QueryBlocks.Xml.Fault

/-!
# Escaped text

Five characters are written as named entities. Reading also takes references to characters
by number; any other use of an ampersand is a fault.
-/

set_option autoImplicit false

namespace QueryBlocks.Xml

def escapeChar (c : Char) : List Char :=
  if c = '<' then "&lt;".toList
  else if c = '>' then "&gt;".toList
  else if c = '&' then "&amp;".toList
  else if c = '\'' then "&apos;".toList
  else if c = '"' then "&quot;".toList
  else [c]

def escape (cs : List Char) : List Char := cs.flatMap escapeChar

def entity? (name : List Char) : Option Char :=
  if name = "lt".toList then some '<'
  else if name = "gt".toList then some '>'
  else if name = "amp".toList then some '&'
  else if name = "apos".toList then some '\''
  else if name = "quot".toList then some '"'
  else none

def digitIn (radix : Nat) (c : Char) : Option Nat :=
  let n :=
    if c.isDigit then some (c.toNat - '0'.toNat)
    else if 'a' ≤ c ∧ c ≤ 'f' then some (c.toNat - 'a'.toNat + 10)
    else if 'A' ≤ c ∧ c ≤ 'F' then some (c.toNat - 'A'.toNat + 10)
    else none
  n.filter (· < radix)

def appendDigit (radix code : Nat) (c : Char) : Except ReferenceFault Nat :=
  match digitIn radix c with
  | none => .error .invalidDigit
  | some d => if radix * code + d < Nat.pow 2 32 then .ok (radix * code + d) else .error .tooLarge

def readCode (radix : Nat) (digits : List Char) : Except ReferenceFault Nat :=
  match digits with
  | [] => .error .noDigits
  | first :: _ =>
    if first = '+' ∨ first = '-' then .error .signed
    else digits.foldlM (appendDigit radix) 0

def characterOf (code : Nat) : Except ReferenceFault Char :=
  if code = 0 then .error (.forbidden 0)
  else if code.isValidChar then .ok (Char.ofNat code)
  else .error (.noCharacter code)

def resolve (start stop : Nat) (name : List Char) : Except ReferenceFault Char := do
  match name with
  | '#' :: 'x' :: digits => characterOf (← readCode 16 digits)
  | '#' :: digits => characterOf (← readCode 10 digits)
  | _ =>
    match entity? name with
    | some c => .ok c
    | none => .error (.unknownEntity start stop (String.ofList name))

/-- Reads escaped text at a byte offset. In the middle of a reference, `reference` holds
where the name starts and the name so far, its last character first. -/
def unescapeAt (place : Nat) (reference : Option (Nat × List Char)) :
    List Char → Except ReferenceFault (List Char)
  | [] =>
    match reference with
    | none => .ok []
    | some (start, _) => .error (.unterminated (start - 1) place)
  | c :: rest =>
    match reference with
    | none =>
      if c = '&' then unescapeAt (place + 1) (some (place + 1, [])) rest
      else do return c :: (← unescapeAt (place + c.utf8Size) none rest)
    | some (start, name) =>
      if c = ';' then do
        let plain ← resolve start place name.reverse
        return plain :: (← unescapeAt (place + 1) none rest)
      else if c = '&' then .error (.unterminated (start - 1) (place + Text.byteLength (c :: rest)))
      else unescapeAt (place + c.utf8Size) (some (start, c :: name)) rest

def unescape (cs : List Char) : Except ReferenceFault (List Char) := unescapeAt 0 none cs

end QueryBlocks.Xml
