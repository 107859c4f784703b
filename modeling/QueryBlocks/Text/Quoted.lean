import QueryBlocks.Text.Ignorable
import QueryBlocks.Text.Mark
import QueryBlocks.Text.Printable

/-!
# Quoted text in messages

A text found where it does not belong is shown between double quotes, with the characters
that would not show escaped.
-/

set_option autoImplicit false

namespace QueryBlocks.Text

def codeEscape (c : Char) : List Char :=
  '\\' :: 'u' :: Char.ofNat 0x7B :: Nat.toDigits 16 c.toNat ++ [Char.ofNat 0x7D]

def isHidden (c : Char) : Bool := !isPrintable c || isExtending c || isIgnorable c

def quotedChar (c : Char) : List Char :=
  if c = '"' then ['\\', '"']
  else if c = '\\' then ['\\', '\\']
  else if c = '\n' then ['\\', 'n']
  else if c = '\r' then ['\\', 'r']
  else if c = '\t' then ['\\', 't']
  else if c.toNat = 0 then ['\\', '0']
  else if isHidden c then codeEscape c
  else [c]

def quoted (s : String) : String :=
  String.ofList ('"' :: s.toList.flatMap quotedChar ++ ['"'])

end QueryBlocks.Text
