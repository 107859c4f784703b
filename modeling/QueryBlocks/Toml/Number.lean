import QueryBlocks.Json.Basic
import QueryBlocks.Number.Notation
import QueryBlocks.Text.Hexadecimal
import QueryBlocks.Toml.Token

/-!
# Numbers of a TOML document

Integers in four bases, and floats with a point or an exponent. Single underscores may part
digits, and decimal digits have no leading zero. The parts of a number are told by what is left of
it, so that a problem can be placed.
-/

set_option autoImplicit false

namespace QueryBlocks.Toml

structure Base where
  mark : Char
  size : Nat
  name : String

def bases : List Base :=
  [{ mark := 'x', size := 16, name := "hexadecimal" },
   { mark := 'o', size := 8, name := "octal" },
   { mark := 'b', size := 2, name := "binary" }]

def baseOf? (mark : Char) : Option Base := bases.find? (·.mark = mark.toLower)

def Base.isDigit (base : Base) (c : Char) : Bool := (Text.baseDigit base.size c).isSome

def isSign (c : Char) : Bool := c == '+' || c == '-'

def isExponentMark (c : Char) : Bool := c == 'e' || c == 'E'

def isFloatMark (c : Char) : Bool := c == '.' || isExponentMark c

def isInteger (value : Int) : Bool :=
  -(Nat.pow 2 127 : Int) ≤ value && value < (Nat.pow 2 128 : Int)

namespace Token

def faultAt (token : Token) (problem : Problem) (text : List Char) : Fault :=
  .between problem token.after text (text.drop 1)

def faultBefore (token : Token) (problem : Problem) (text : List Char) : Fault :=
  .between problem token.after text text

end Token

/-- Where an underscore does not part two digits. `run` characters came since the last underscore,
and `last` was the last of them; a sign that stands alone counts as a digit. -/
def strayUnderscore (isDigit : Char → Bool) (run : Nat) (last : Char) :
    List Char → Option (List Char)
  | [] => none
  | c :: rest =>
    if c != '_' then strayUnderscore isDigit (run + 1) c rest
    else if 1 < run && !isDigit last then some (c :: rest)
    else match rest with
      | [] => none
      | next :: _ =>
        if next = '_' then some rest
        else if isDigit next then strayUnderscore isDigit 0 c rest
        else some (c :: rest)

def checkUnderscores (token : Token) (isDigit : Char → Bool) (digits : List Char) :
    Except Fault Unit :=
  if digits.head? = some '_' then .error (token.faultAt .looseUnderscore token.text)
  else if digits.getLast? = some '_' then
    .error (.between .looseUnderscore token.after ['_'] [])
  else match strayUnderscore isDigit 0 '_' digits with
    | some rest => .error (token.faultAt .looseUnderscore rest)
    | none => .ok ()

def wholeValue (base : Nat) (text : List Char) : Option Int := do
  let (negative, digits) := Binary64.splitSign text
  if digits.isEmpty then none
  else
    let value ← Text.readInBase base digits
    return if negative then -(value : Int) else value

def isHexDigit (c : Char) : Bool := (Text.hexValue c).isSome

/-- An integer by its digits, which may have a sign. Letters among them are no misplaced
underscores, but have no value either. -/
def readInteger (token : Token) (base : Nat) (digits : List Char) : Except Fault Json := do
  checkUnderscores token isHexDigit digits
  match (wholeValue base (digits.filter (· ≠ '_'))).filter isInteger with
  | some value => return .integer value
  | none => .error (token.fault .largeInteger)

def checkDigits (token : Token) (part : FloatPart) (zeros : Bool) (text : List Char) :
    Except Fault (List Char) :=
  let run := text.takeWhile fun c => c.isDigit || c == '_'
  let rest := text.drop run.length
  match (run.filter Char.isDigit).length with
  | 0 => .error (token.faultBefore (.noDigits part) rest)
  | 1 => .ok rest
  | _ =>
    if !zeros && text.head? = some '0' then .error (token.faultAt .leadingZero text) else .ok rest

def withoutSign : List Char → List Char
  | c :: rest => if isSign c then rest else c :: rest
  | [] => []

def checkFloat (token : Token) (text : List Char) : Except Fault Unit := do
  let rest ← checkDigits token .mantissa false text
  let rest ←
    if rest.head? = some '.' then checkDigits token .fraction true (rest.drop 1) else pure rest
  let rest ←
    if rest.head?.any isExponentMark then
      checkDigits token .exponent true (withoutSign (rest.drop 1))
    else pure rest
  if rest.isEmpty then return () else .error (.between .afterFloat token.after rest [])

def readFloat (token : Token) (text : List Char) : Except Fault Json := do
  checkFloat token text
  checkUnderscores token Char.isDigit token.text
  let (negative, digits) := Binary64.splitSign (token.text.filter (· ≠ '_'))
  match (Binary64.readDecimal negative digits).filter (·.isFinite) with
  | some value => return .float value
  | none => .error (token.fault .largeFloat)

def readBased (token : Token) (base : Base) (digits : List Char) : Except Fault Json :=
  match digits.dropWhile fun c => base.isDigit c || c == '_' with
  | [] => readInteger token base.size digits
  | rest =>
    if digits.head?.any isSign then .error (token.faultAt .signInBase digits)
    else .error (token.faultBefore (.badDigit base.name) rest)

def readDecimalInteger (token : Token) (text : List Char) : Except Fault Json :=
  if text.head? = some '0' && 1 < text.length then .error (token.faultAt .leadingZero text)
  else readInteger token 10 token.text

end QueryBlocks.Toml
