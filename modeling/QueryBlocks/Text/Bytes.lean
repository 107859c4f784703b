/-!
# The size of text in bytes

Text is stored in UTF-8, in which a character takes one to four bytes.
-/

set_option autoImplicit false

namespace QueryBlocks.Text

def byteLength : List Char → Nat
  | [] => 0
  | c :: rest => c.utf8Size + byteLength rest

end QueryBlocks.Text
