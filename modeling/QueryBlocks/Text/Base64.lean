/-!
# Base64

Bytes as text: three bytes become four digits of six bits each, and a last group of one or
two bytes is filled up with equals signs.
-/

set_option autoImplicit false

namespace QueryBlocks.Text.Base64

def digits : List Char :=
  "ABCDEFGHIJKLMNOPQRSTUVWXYZabcdefghijklmnopqrstuvwxyz0123456789+/".toList

def digit (n : Nat) : Char := digits.getD n '='

def group (a b c : UInt8) : List Char :=
  let n := a.toNat * 65536 + b.toNat * 256 + c.toNat
  [digit (n / 262144), digit (n / 4096 % 64), digit (n / 64 % 64), digit (n % 64)]

def encode : List UInt8 → List Char
  | a :: b :: c :: rest => group a b c ++ encode rest
  | [a, b] => (group a b 0).take 3 ++ ['=']
  | [a] => (group a 0 0).take 2 ++ ['=', '=']
  | [] => []

end QueryBlocks.Text.Base64
