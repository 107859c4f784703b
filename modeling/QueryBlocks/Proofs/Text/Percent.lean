import QueryBlocks.Text.Percent

/-!
# Percent-encoded text reads back

The code of a text is made of kept characters and of escapes of one byte each. Where the percent
sign itself is not kept, decoding gives the bytes of the text back, and those are the bytes of no
other text.
-/

set_option autoImplicit false

namespace QueryBlocks.Text

def IsUpperHex (c : Char) : Prop := c ∈ "0123456789ABCDEF".toList

inductive Coded (plain : Char → Prop) : List Char → Prop where
  | nil : Coded plain []
  | plain (c : Char) (rest : List Char) (hc : plain c) (h : Coded plain rest) :
    Coded plain (c :: rest)
  | escape (high low : Char) (rest : List Char) (hh : IsUpperHex high) (hl : IsUpperHex low)
      (h : Coded plain rest) : Coded plain ('%' :: high :: low :: rest)

variable (kept : Char → Bool)

theorem isUpperHex_hexDigit : ∀ n < 16, IsUpperHex (hexDigit n) := by
  unfold IsUpperHex
  decide

theorem hexValue_hexDigit : ∀ n < 16, hexValue (hexDigit n) = some n := by
  decide

theorem digitPair_hexDigit (byte : UInt8) :
    digitPair (hexDigit (byte.toNat / 16)) (hexDigit (byte.toNat % 16)) = some byte := by
  have hb := byte.toNat_lt
  have hhigh := hexValue_hexDigit (byte.toNat / 16) (by omega)
  have hlow := hexValue_hexDigit (byte.toNat % 16) (by omega)
  have hvalue : 16 * (byte.toNat / 16) + byte.toNat % 16 = byte.toNat := by omega
  have hread : digitPair (hexDigit (byte.toNat / 16)) (hexDigit (byte.toNat % 16)) =
      some (16 * (byte.toNat / 16) + byte.toNat % 16).toUInt8 := by
    simp only [digitPair, hhigh, hlow]
    rfl
  rw [hread, hvalue]
  simp

theorem percentDecode_plain (c : Char) (rest : List Char) (h : c ≠ '%') :
    percentDecode (c :: rest) = String.utf8EncodeChar c ++ percentDecode rest := by
  rw [percentDecode]
  intro _ _ _ hc
  exact absurd hc h

theorem utf8EncodeChar_ofNat (byte : UInt8) (h : byte < 0x80) :
    String.utf8EncodeChar (Char.ofNat byte.toNat) = [byte] := by
  have hascii : ∀ n < 128, String.utf8EncodeChar (Char.ofNat n) = [UInt8.ofNat n] := by decide
  simp [hascii byte.toNat (UInt8.lt_iff_toNat_lt.mp h)]

/-- A byte is written as its own character or as an escape. -/
theorem encodeByte_cases (byte : UInt8) :
    (byte < 0x80 ∧ kept (Char.ofNat byte.toNat) = true ∧
      encodeByte kept byte = [Char.ofNat byte.toNat]) ∨
    encodeByte kept byte = percentByte byte := by
  by_cases h : byte < 0x80 ∧ kept (Char.ofNat byte.toNat) = true
  · simp [encodeByte, h]
  · right
    simp only [encodeByte, Bool.and_eq_true, decide_eq_true_eq, if_neg h]

theorem percentDecode_encodeByte (h : kept '%' = false) (byte : UInt8) (rest : List Char) :
    percentDecode (encodeByte kept byte ++ rest) = byte :: percentDecode rest := by
  rcases encodeByte_cases kept byte with ⟨hb, hk, he⟩ | he
  · have hc : Char.ofNat byte.toNat ≠ '%' := by
      intro hpercent
      simp [hpercent, h] at hk
    simp [he, percentDecode_plain _ _ hc, utf8EncodeChar_ofNat byte hb]
  · simp [he, percentByte, percentDecode, digitPair_hexDigit]

theorem percentDecode_percentEncode (h : kept '%' = false) (s : String) :
    percentDecode (percentEncode kept s).toList = bytes s := by
  have hall (content : List UInt8) :
      percentDecode (content.flatMap (encodeByte kept)) = content := by
    induction content with
    | nil => rfl
    | cons byte content ih =>
      rw [List.flatMap_cons, percentDecode_encodeByte kept h, ih]
  simp [percentEncode, hall]

theorem ofBytes?_bytes (s : String) : ofBytes? (bytes s) = some s := by
  have hb : (bytes s).toByteArray = s.toByteArray := String.utf8Encode_toList
  have ha : (⟨(bytes s).toArray⟩ : ByteArray) = s.toByteArray := by
    rw [← hb]
    exact ByteArray.ext List.data_toByteArray.symm
  rw [ofBytes?, ha, String.fromUTF8?, dif_pos s.isValidUTF8]
  rfl

theorem coded_append (plain : Char → Prop) (front back : List Char) (hf : Coded plain front)
    (hb : Coded plain back) : Coded plain (front ++ back) := by
  induction hf with
  | nil => exact hb
  | plain c rest hc _ ih => exact .plain c _ hc ih
  | escape high low rest hh hl _ ih => exact .escape high low _ hh hl ih

theorem coded_encodeByte (plain : Char → Prop) (hk : ∀ c, kept c = true → plain c)
    (byte : UInt8) : Coded plain (encodeByte kept byte) := by
  have hb := byte.toNat_lt
  rcases encodeByte_cases kept byte with ⟨-, h, he⟩ | he
  · rw [he]
    exact .plain _ _ (hk _ h) .nil
  · rw [he]
    exact .escape _ _ _ (isUpperHex_hexDigit _ (by omega)) (isUpperHex_hexDigit _ (by omega)) .nil

theorem coded_percentEncode (plain : Char → Prop) (hk : ∀ c, kept c = true → plain c)
    (s : String) : Coded plain (percentEncode kept s).toList := by
  rw [percentEncode, String.toList_ofList]
  induction bytes s with
  | nil => exact .nil
  | cons byte content ih =>
    rw [List.flatMap_cons]
    exact coded_append plain _ _ (coded_encodeByte kept plain hk byte) ih

theorem not_mem_of_coded (plain : Char → Prop) (c : Char) (code : List Char)
    (h : Coded plain code) (hp : ¬ plain c) (hc : c ≠ '%') (hx : ¬ IsUpperHex c) : c ∉ code := by
  induction h with
  | nil => simp
  | plain d rest hd _ ih =>
    have hne : c ≠ d := fun he => hp (he ▸ hd)
    simp [hne, ih]
  | escape high low rest hh hl _ ih =>
    have hhigh : c ≠ high := fun he => hx (he ▸ hh)
    have hlow : c ≠ low := fun he => hx (he ▸ hl)
    simp [hc, hhigh, hlow, ih]

end QueryBlocks.Text
