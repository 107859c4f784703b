/-!
# Punycode

Labels of a domain name beyond ASCII are carried as ASCII: first the ASCII characters of the
label, then each other character as the distance from the one before it, counted over code
points and places and written in base 36 with thresholds that adapt.
-/

set_option autoImplicit false

namespace QueryBlocks.Punycode

def digitChar (value : Nat) : Char :=
  if value < 26 then Char.ofNat ('a'.toNat + value) else Char.ofNat ('0'.toNat + (value - 26))

def digitValue (c : Char) : Option Nat :=
  if 'a' ≤ c ∧ c ≤ 'z' then some (c.toNat - 'a'.toNat)
  else if 'A' ≤ c ∧ c ≤ 'Z' then some (c.toNat - 'A'.toNat)
  else if c.isDigit then some (c.toNat - '0'.toNat + 26)
  else none

def threshold (bias place : Nat) : Nat :=
  if place ≤ bias then 1 else if bias + 26 ≤ place then 26 else place - bias

def shrink (delta bias : Nat) : Nat × Nat :=
  if 455 < delta then shrink (delta / 35) (bias + 36) else (delta, bias)
termination_by delta
decreasing_by exact Nat.div_lt_self (by omega) (by omega)

def adapt (delta count : Nat) (first : Bool) : Nat :=
  let scaled := if first then delta / 700 else delta / 2
  let (rest, bias) := shrink (scaled + scaled / count) 0
  bias + 36 * rest / (rest + 38)

structure Progress where
  code : Nat
  place : Nat
  bias : Nat
  text : List Char

def Progress.start (basic : List Char) : Progress :=
  { code := 128, place := 0, bias := 72, text := basic }

def readDistance (bias : Nat) : Nat → Nat → Nat → List Char → Option (Nat × List Char)
  | _, _, _, [] => none
  | place, weight, total, c :: rest => do
    let digit ← digitValue c
    let total := total + digit * weight
    let limit := threshold bias place
    if digit < limit then some (total, rest)
    else readDistance bias (place + 36) (weight * (36 - limit)) total rest

def Progress.insert? (p : Progress) (distance : Nat) : Option Progress :=
  let count := p.text.length + 1
  let position := p.place + distance
  let code := p.code + position / count
  let place := position % count
  if h : code.isValidChar then
    some
      { code
        place := place + 1
        bias := adapt distance count (p.code == 128 && p.place == 0 && p.bias == 72)
        text := p.text.take place ++ Char.ofNatAux code h :: p.text.drop place }
  else none

def decodeFrom : Nat → Progress → List Char → Option (List Char)
  | _, p, [] => some p.text
  | 0, _, _ :: _ => none
  | fuel + 1, p, digits => do
    let (distance, rest) ← readDistance p.bias 36 1 0 digits
    decodeFrom fuel (← p.insert? distance) rest

def splitBasic (label : List Char) : List Char × List Char :=
  let digits := (label.reverse.takeWhile (· ≠ '-')).reverse
  (label.take (label.length - digits.length - 1), digits)

def decode (label : List Char) : Option (List Char) :=
  let (basic, digits) := splitBasic label
  if basic.all (·.toNat < 128) then decodeFrom digits.length (.start basic) digits else none

def writeDistance (bias place distance : Nat) : Nat → List Char
  | 0 => []
  | fuel + 1 =>
    let limit := threshold bias place
    if distance < limit then [digitChar distance]
    else digitChar (limit + (distance - limit) % (36 - limit)) ::
      writeDistance bias (place + 36) ((distance - limit) / (36 - limit)) fuel

structure Output where
  delta : Nat
  bias : Nat
  count : Nat
  digits : List Char

def Output.pass (code basic : Nat) (out : Output) (c : Char) : Output :=
  if c.toNat < code then { out with delta := out.delta + 1 }
  else if c.toNat = code then
    { delta := 0
      bias := adapt out.delta (out.count + 1) (out.count == basic)
      count := out.count + 1
      digits := out.digits ++ writeDistance out.bias 36 out.delta (out.delta + 1) }
  else out

def encodeCodes (label : List Char) (basic : Nat) : List Nat → Nat → Output → Output
  | [], _, out => out
  | code :: rest, last, out =>
    let out := { out with delta := out.delta + (code - last) * (out.count + 1) }
    let out := label.foldl (Output.pass code basic) out
    encodeCodes label basic rest (code + 1) { out with delta := out.delta + 1 }

def encode (label : List Char) : List Char :=
  let basic := label.filter (·.toNat < 128)
  let codes := ((label.map Char.toNat).filter (128 ≤ ·)).mergeSort.eraseDups
  let out := encodeCodes label basic.length codes 128
    { delta := 0, bias := 72, count := basic.length, digits := [] }
  (if basic.isEmpty then [] else basic ++ ['-']) ++ out.digits

end QueryBlocks.Punycode
