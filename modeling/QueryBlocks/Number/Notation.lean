import QueryBlocks.Number.Shortest

/-!
# Numbers as text

Values of parameters are written positionally, however long that gets, and read in
positional or exponent notation.
-/

set_option autoImplicit false

namespace QueryBlocks

def Decimal.positional (d : Decimal) : List Char :=
  if d.point ≤ 0 then
    '0' :: '.' :: (List.replicate d.point.natAbs '0' ++ d.digits)
  else if d.digits.length ≤ d.point.toNat then
    d.digits ++ List.replicate (d.point.toNat - d.digits.length) '0'
  else
    d.digits.take d.point.toNat ++ '.' :: d.digits.drop d.point.toNat

namespace Binary64

def signText (negative : Bool) : List Char := if negative then ['-'] else []

def text : Binary64 → List Char
  | .nan => "NaN".toList
  | .infinite negative => signText negative ++ "inf".toList
  | .finite negative units _ =>
    signText negative ++ if units = 0 then ['0'] else (shortest .up units).positional

def toString (x : Binary64) : String := String.ofList x.text

def splitSign : List Char → Bool × List Char
  | '-' :: rest => (true, rest)
  | '+' :: rest => (false, rest)
  | rest => (false, rest)

def digitValue (digits : List Char) : Nat :=
  digits.foldl (fun value digit => 10 * value + (digit.toNat - '0'.toNat)) 0

def readExponent (cs : List Char) : Option Int :=
  let (negative, digits) := splitSign cs
  if digits.isEmpty || !digits.all Char.isDigit then none
  else some (if negative then -(digitValue digits : Int) else digitValue digits)

def readDecimal (negative : Bool) (cs : List Char) : Option Binary64 :=
  let whole := cs.takeWhile Char.isDigit
  let (fraction, rest) :=
    match cs.dropWhile Char.isDigit with
    | '.' :: more => (more.takeWhile Char.isDigit, more.dropWhile Char.isDigit)
    | more => ([], more)
  let coefficient := digitValue (whole ++ fraction)
  if whole.isEmpty && fraction.isEmpty then none
  else match rest with
    | [] => some (ofDecimal negative coefficient (-(fraction.length : Int)))
    | c :: more =>
      if c == 'e' || c == 'E' then
        (readExponent more).map fun e => ofDecimal negative coefficient (e - fraction.length)
      else none

def read (cs : List Char) : Option Binary64 :=
  let (negative, rest) := splitSign cs
  let word := String.ofList (rest.map Char.toLower)
  if word = "nan" then some .nan
  else if word = "inf" ∨ word = "infinity" then some (.infinite negative)
  else readDecimal negative rest

def ofString? (s : String) : Option Binary64 := read s.toList

end Binary64

end QueryBlocks
