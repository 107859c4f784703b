/-!
# Blank and control characters

The white space of Unicode, and the trimming of text by it.
-/

set_option autoImplicit false

namespace QueryBlocks.Text

def isBlank (c : Char) : Bool :=
  let n := c.toNat
  (9 ≤ n && n ≤ 13) || n == 0x20 || n == 0x85 || n == 0xA0 || n == 0x1680 ||
    (0x2000 ≤ n && n ≤ 0x200A) || n == 0x2028 || n == 0x2029 || n == 0x202F ||
    n == 0x205F || n == 0x3000

def isControl (c : Char) : Bool :=
  c.toNat < 0x20 || (0x7F ≤ c.toNat && c.toNat ≤ 0x9F)

def allBlank (s : String) : Bool := s.toList.all isBlank

end QueryBlocks.Text
