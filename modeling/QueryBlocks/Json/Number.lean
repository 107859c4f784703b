import QueryBlocks.Json.Basic
import QueryBlocks.Text.Unsigned

/-!
# The value of a JSON number

Integers of 64 bits stay integers. Any other number keeps the leading digits that fit 64
bits as its significand and scales it by a power of ten, rounding once for the significand
and once for each scaling.
-/

set_option autoImplicit false

namespace QueryBlocks.Json

structure Exponent where
  negative : Bool
  magnitude : Nat

structure NumberText where
  negative : Bool
  whole : List Char
  fraction : List Char
  exponent : Option Exponent

def digit (c : Char) : Nat := c.toNat - '0'.toNat

def maxExponent : Nat := Nat.pow 2 31 - 1

namespace NumberText

def addExponent (text : NumberText) (c : Char) : NumberText :=
  { text with exponent := text.exponent.map fun e =>
      { e with magnitude := 10 * e.magnitude + digit c } }

def isZero (text : NumberText) : Bool :=
  text.whole.all (· == '0') && text.fraction.all (· == '0')

def isBeyondRange (text : NumberText) : Bool :=
  match text.exponent with
  | some ⟨false, magnitude⟩ => maxExponent < magnitude && !text.isZero
  | _ => false

end NumberText

/-- A decimal significand of 64 bits with the exponent that its unread digits leave. -/
structure Significand where
  value : Nat
  exponent : Int
  full : Bool

namespace Significand

def accepts (s : Significand) (c : Char) : Bool :=
  10 * s.value + digit c ≤ Text.maxUnsigned

/-- Digits before the point: one that does not fit, and all after it, count as zeros. -/
def addWhole (s : Significand) (c : Char) : Significand :=
  if !s.full && s.accepts c then { s with value := 10 * s.value + digit c }
  else { s with exponent := s.exponent + 1, full := true }

/-- Digits after the point: one that does not fit, and all after it, are dropped. -/
def addFraction (s : Significand) (c : Char) : Significand :=
  if !s.full && s.accepts c then
    { s with value := 10 * s.value + digit c, exponent := s.exponent - 1 }
  else { s with full := true }

def ofDigits (whole fraction : List Char) : Significand :=
  let before := whole.foldl addWhole { value := 0, exponent := 0, full := false }
  fraction.foldl addFraction { before with full := false }

end Significand

def maxScale : Nat := 308

def powerOfTen (exponent : Nat) : Nat :=
  Binary64.nearestUnits (Nat.pow 10 exponent * Binary64.unit) 1

def divideByPower (x : Binary64) (exponent : Nat) : Binary64 :=
  if x.isZero then x
  else if exponent ≤ maxScale then x.scaleDown (powerOfTen exponent)
  else divideByPower (x.scaleDown (powerOfTen maxScale)) (exponent - maxScale)
termination_by exponent
decreasing_by all_goals (simp only [maxScale] at *; omega)

def scaled (significand : Nat) (exponent : Int) : Option Binary64 :=
  let x := Binary64.ofNat significand
  if exponent < 0 then some (divideByPower x exponent.natAbs)
  else if exponent.toNat ≤ maxScale then
    let y := x.scaleUp (powerOfTen exponent.toNat)
    if y.isFinite then some y else none
  else if x.isZero then some x
  else none

def clampExponent (exponent : Int) : Int :=
  max (-(maxExponent : Int) - 1) (min exponent maxExponent)

def floatValue (text : NumberText) : Option Json :=
  let s := Significand.ofDigits text.whole text.fraction
  let written : Int := match text.exponent with
    | none => 0
    | some e => if e.negative then -(e.magnitude : Int) else e.magnitude
  (scaled s.value (clampExponent (s.exponent + written))).map fun x =>
    .float (if text.negative then x.negate else x)

def numberValue (text : NumberText) : Option Json :=
  match text.fraction, text.exponent with
  | [], none =>
    let n := text.whole.foldl (fun value c => 10 * value + digit c) 0
    if !text.negative && n ≤ Text.maxUnsigned then some (.integer n)
    else if text.negative && 0 < n && n ≤ Nat.pow 2 63 then some (.integer (-(n : Int)))
    else floatValue text
  | _, _ => floatValue text

end QueryBlocks.Json
