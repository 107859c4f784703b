import QueryBlocks.Number.Binary64

/-!
# Shortest decimal digits

The decimal grid of `n` digits around a magnitude has two points next to it. The shortest
digits are those of the coarsest grid of which one of the two points reads back as the
magnitude; of two such points the nearer is taken, and a tie is left to the caller.
-/

set_option autoImplicit false

namespace QueryBlocks

/-- The number `0.d₁d₂…dₙ * 10 ^ point`, without trailing zeros among the digits. -/
structure Decimal where
  digits : List Char
  point : Int
deriving DecidableEq

namespace Decimal

def ofScaled (coefficient : Nat) (exponent : Int) : Decimal :=
  let digits := Nat.toDigits 10 coefficient
  { digits := (digits.reverse.dropWhile (· == '0')).reverse
    point := digits.length + exponent }

end Decimal

namespace Binary64

inductive Tie where
  | up
  | even
deriving DecidableEq

def lowestExponent : Nat := 342

def decimalPoint (units : Nat) : Int :=
  (Nat.toDigits 10 (units * Nat.pow 10 lowestExponent / unit)).length - (lowestExponent : Int)

def readsBack (units coefficient : Nat) (exponent : Int) : Bool :=
  if exponent < 0 then nearestUnits (coefficient * unit) (Nat.pow 10 exponent.natAbs) == units
  else nearestUnits (coefficient * Nat.pow 10 exponent.natAbs * unit) 1 == units

def onGrid (tie : Tie) (units count : Nat) : Option (Nat × Int) :=
  let exponent := decimalPoint units - count
  let numerator := units * Nat.pow 10 (-exponent).toNat
  let denominator := unit * Nat.pow 10 exponent.toNat
  let below := numerator / denominator
  let rest := numerator % denominator
  let lower := readsBack units below exponent
  let upper := readsBack units (below + 1) exponent
  let preferLower := 2 * rest < denominator ∨
    (2 * rest = denominator ∧ tie = .even ∧ below % 2 = 0)
  if lower && (!upper || decide preferLower) then some (below, exponent)
  else if upper then some (below + 1, exponent)
  else none

def exactDecimal (units : Nat) : Nat × Int := (units * Nat.pow 5 1074, -1074)

def coarsest (tie : Tie) (units : Nat) : Nat × Int :=
  ((List.range 17).findSome? fun i => onGrid tie units (i + 1)).getD (exactDecimal units)

def shortest (tie : Tie) (units : Nat) : Decimal :=
  Decimal.ofScaled (coarsest tie units).1 (coarsest tie units).2

end Binary64

end QueryBlocks
