/-!
# Binary floating-point numbers

A finite magnitude is a whole number of *units* of `2 ^ (-1074)`, the least positive
magnitude there is. Of those numbers the representable ones keep 53 significant bits and
stay below `2 ^ 1024`. Every operation is exact arithmetic followed by one rounding to
the nearest representable magnitude, a tie going to the even one.
-/

set_option autoImplicit false

namespace QueryBlocks

namespace Binary64

def unit : Nat := Nat.pow 2 1074

def limit : Nat := Nat.pow 2 2098

def spacing (units : Nat) : Nat := Nat.pow 2 (units.log2 - 52)

/-- At most 53 significant bits, and in range. -/
def Representable (units : Nat) : Prop := units % spacing units = 0 ∧ units < limit

instance (units : Nat) : Decidable (Representable units) :=
  inferInstanceAs (Decidable (_ ∧ _))

end Binary64

/-- A binary floating-point number of 64 bits. All not-a-numbers are one value. -/
inductive Binary64 where
  | nan
  | infinite (negative : Bool)
  | finite (negative : Bool) (units : Nat) (representable : Binary64.Representable units)
deriving DecidableEq

namespace Binary64

def ofUnits (negative : Bool) (units : Nat) : Binary64 :=
  if h : Representable units then .finite negative units h else .infinite negative

def nearestUnits (numerator denominator : Nat) : Nat :=
  let step := denominator * spacing (numerator / denominator)
  let steps := numerator / step
  let rest := numerator % step
  let rounded := if 2 * rest > step ∨ (2 * rest = step ∧ steps % 2 = 1) then steps + 1 else steps
  rounded * spacing (numerator / denominator)

def nearest (negative : Bool) (numerator denominator : Nat) : Binary64 :=
  ofUnits negative (nearestUnits (numerator * unit) denominator)

def zero (negative : Bool) : Binary64 := ofUnits negative 0

/-- The number nearest to `coefficient * 10 ^ exponent`. Exponents that take the value out
of range in either direction are settled without computing the power. -/
def ofDecimal (negative : Bool) (coefficient : Nat) (exponent : Int) : Binary64 :=
  if coefficient = 0 then zero negative
  else
    let point := (Nat.toDigits 10 coefficient).length + exponent
    if point > 310 then .infinite negative
    else if point < -330 then zero negative
    else if exponent < 0 then nearest negative coefficient (Nat.pow 10 exponent.natAbs)
    else nearest negative (coefficient * Nat.pow 10 exponent.natAbs) 1

def ofNat (n : Nat) : Binary64 := nearest false n 1

def isFinite : Binary64 → Bool
  | .finite .. => true
  | _ => false

def isZero : Binary64 → Bool
  | .finite _ units _ => units == 0
  | _ => false

def negate : Binary64 → Binary64
  | .nan => .nan
  | .infinite negative => .infinite !negative
  | .finite negative units h => .finite (!negative) units h

def scaleUp (x : Binary64) (factor : Nat) : Binary64 :=
  match x with
  | .finite negative units _ => nearest negative (units * factor) (unit * unit)
  | other => other

def scaleDown (x : Binary64) (divisor : Nat) : Binary64 :=
  match x with
  | .finite negative units _ => nearest negative units divisor
  | other => other

def sameValue : Binary64 → Binary64 → Bool
  | .infinite a, .infinite b => a == b
  | .finite a m _, .finite b n _ => m == n && (m == 0 || a == b)
  | _, _ => false

end Binary64

end QueryBlocks
