/-!
# Unsigned integers as text

Counts and slot numbers: an optional plus sign and decimal digits, up to 64 bits.
-/

set_option autoImplicit false

namespace QueryBlocks.Text

def maxUnsigned : Nat := Nat.pow 2 64 - 1

def appendDigit (value : Option Nat) (digit : Char) : Option Nat := do
  let n ← value
  if digit.isDigit then
    let m := 10 * n + (digit.toNat - '0'.toNat)
    if m ≤ maxUnsigned then some m else none
  else none

def readDigits : List Char → Option Nat
  | [] => none
  | digits => digits.foldl appendDigit (some 0)

def readUnsigned : List Char → Option Nat
  | '+' :: digits => readDigits digits
  | digits => readDigits digits

end QueryBlocks.Text
