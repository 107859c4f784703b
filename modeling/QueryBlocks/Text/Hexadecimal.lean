/-!
# Hexadecimal digits
-/

set_option autoImplicit false

namespace QueryBlocks.Text

def hexValue (c : Char) : Option Nat :=
  if c.isDigit then some (c.toNat - '0'.toNat)
  else if 'a' ≤ c ∧ c ≤ 'f' then some (c.toNat - 'a'.toNat + 10)
  else if 'A' ≤ c ∧ c ≤ 'F' then some (c.toNat - 'A'.toNat + 10)
  else none

def baseDigit (base : Nat) (c : Char) : Option Nat :=
  (hexValue c).filter (· < base)

def readInBase (base : Nat) (digits : List Char) : Option Nat :=
  digits.foldlM (fun value c => (baseDigit base c).map (base * value + ·)) 0

end QueryBlocks.Text
