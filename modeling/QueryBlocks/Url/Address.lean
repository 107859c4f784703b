import QueryBlocks.Text.Hexadecimal

/-!
# Addresses as hosts

A host whose last label is a number is an IPv4 address: up to four numbers, in decimal,
octal or hexadecimal, of which the last fills what is left. An IPv6 address has eight
groups of hexadecimal digits; one run of zero groups may be left out, and the last two may
be written as an IPv4 address.
-/

set_option autoImplicit false

namespace QueryBlocks

open Text (readInBase)

def splitAt (separator : Char) (text : List Char) : List (List Char) :=
  text.foldr
    (fun c parts =>
      match parts with
      | part :: rest => if c = separator then [] :: part :: rest else (c :: part) :: rest
      | [] => [])
    [[]]

def readHostNumber : List Char → Option Nat
  | [] => none
  | '0' :: 'x' :: digits => readInBase 16 digits
  | '0' :: 'X' :: digits => readInBase 16 digits
  | '0' :: c :: digits => readInBase 8 (c :: digits)
  | digits => readInBase 10 digits

def hostLabels (host : List Char) : List (List Char) :=
  let labels := splitAt '.' host
  if labels.getLast? = some [] then labels.dropLast else labels

def endsInNumber (host : List Char) : Bool :=
  match (hostLabels host).getLast? with
  | none => false
  | some label =>
    (!label.isEmpty && label.all Char.isDigit) || (readHostNumber label).isSome

def readIpv4 (host : List Char) : Option Nat := do
  let labels := hostLabels host
  if labels.length > 4 then none
  else
    let numbers ← labels.mapM readHostNumber
    let last ← numbers.getLast?
    let leading := numbers.dropLast
    if leading.any (· > 255) || last ≥ Nat.pow 256 (4 - leading.length) then none
    else
      let high := leading.foldl (fun value n => 256 * value + n) 0
      some (high * Nat.pow 256 (4 - leading.length) + last)

def readByte : List Char → Option Nat
  | [] => none
  | ['0'] => some 0
  | '0' :: _ => none
  | digits => (readInBase 10 digits).filter (· ≤ 255)

def readGroup (digits : List Char) : Option (List Nat) :=
  if digits.isEmpty || digits.length > 4 then none else (readInBase 16 digits).map ([·])

def readDotted (text : List Char) : Option (List Nat) := do
  match ← (splitAt '.' text).mapM readByte with
  | [a, b, c, d] => some [256 * a + b, 256 * c + d]
  | _ => none

def readGroups (final : Bool) : List (List Char) → Option (List Nat)
  | [] => some []
  | [last] => if final && last.contains '.' then readDotted last else readGroup last
  | group :: rest => do return (← readGroup group) ++ (← readGroups final rest)

def readPart (final : Bool) (text : List Char) : Option (List Nat) :=
  if text.isEmpty then some [] else readGroups final (splitAt ':' text)

def splitAtGap : List Char → Option (List Char × List Char)
  | [] => none
  | ':' :: ':' :: rest => some ([], rest)
  | c :: rest => (splitAtGap rest).map fun parts => (c :: parts.1, parts.2)

def readIpv6 (text : List Char) : Option (List Nat) := do
  match splitAtGap text with
  | none => (← readPart true text) |> fun groups => if groups.length = 8 then some groups else none
  | some (left, right) =>
    let left ← readPart false left
    let right ← readPart true right
    if left.length + right.length ≤ 7 then
      some (left ++ List.replicate (8 - left.length - right.length) 0 ++ right)
    else none

def ipv4Text (address : Nat) : String :=
  ".".intercalate ((List.range 4).map fun i => toString (address / Nat.pow 256 (3 - i) % 256))

def zeroRun (groups : List Nat) : Nat := (groups.takeWhile (· = 0)).length

def longestZeros (groups : List Nat) : Option (Nat × Nat) :=
  (List.range groups.length).foldl
    (fun best i =>
      let length := zeroRun (groups.drop i)
      match best with
      | some (_, most) => if most < length then some (i, length) else best
      | none => if 2 ≤ length then some (i, length) else none)
    none

def groupsText (groups : List Nat) : String :=
  ":".intercalate (groups.map fun group => String.ofList (Nat.toDigits 16 group))

def ipv6Text (groups : List Nat) : String :=
  match longestZeros groups with
  | none => groupsText groups
  | some (start, length) =>
    groupsText (groups.take start) ++ "::" ++ groupsText (groups.drop (start + length))

end QueryBlocks
