import QueryBlocks.Text.Hexadecimal

/-!
# Percent-encoding

Text as the bytes of its UTF-8 form, with the bytes outside a set of characters written as
a percent sign and two hexadecimal digits.
-/

set_option autoImplicit false

namespace QueryBlocks.Text

def bytes (s : String) : List UInt8 := s.toList.flatMap String.utf8EncodeChar

def hexDigit (n : Nat) : Char := (Nat.digitChar n).toUpper

def percentByte (byte : UInt8) : List Char :=
  ['%', hexDigit (byte.toNat / 16), hexDigit (byte.toNat % 16)]

def encodeByte (kept : Char → Bool) (byte : UInt8) : List Char :=
  let c := Char.ofNat byte.toNat
  if byte < 0x80 && kept c then [c] else percentByte byte

def percentEncode (kept : Char → Bool) (s : String) : String :=
  String.ofList ((bytes s).flatMap (encodeByte kept))

def digitPair (high low : Char) : Option UInt8 := do
  return (16 * (← hexValue high) + (← hexValue low)).toUInt8

def percentDecode : List Char → List UInt8
  | [] => []
  | '%' :: high :: low :: rest =>
    match digitPair high low with
    | some byte => byte :: percentDecode rest
    | none => '%'.toNat.toUInt8 :: percentDecode (high :: low :: rest)
  | c :: rest => String.utf8EncodeChar c ++ percentDecode rest

def ofBytes? (content : List UInt8) : Option String := String.fromUTF8? ⟨content.toArray⟩

end QueryBlocks.Text
