import QueryBlocks.Toml.Moment
import QueryBlocks.Toml.Number

/-!
# Unquoted values of a TOML document

Booleans, integers, floats, dates and times. What a value is meant to be shows at its start. A date
or time becomes an object with one member that holds its normal text, which no other value can be
confused with.
-/

set_option autoImplicit false

namespace QueryBlocks.Toml

def momentKey : String := "$__toml_private_datetime"

def readMoment (token : Token) : Except Fault Json :=
  match Moment.read token.text with
  | .ok text => .ok (.object [(momentKey, .string (String.ofList text))])
  | .error problem => .error (token.fault problem)

def readDecimal (token : Token) (text : List Char) : Except Fault Json :=
  match text.dropWhile Char.isDigit with
  | [] => readDecimalInteger token text
  | c :: rest =>
    if c = '-' ∨ c = ':' then readMoment token
    else if (c :: rest).contains ' ' then .error (token.fault .unquoted)
    else if (c :: rest).any isFloatMark then readFloat token text
    else if c = '_' then readDecimalInteger token text
    else .error (token.fault .unquoted)

def readFromZero (token : Token) (signed : Bool) (mark : Char) (digits text : List Char) :
    Except Fault Json :=
  let decimal := mark.toLower = 'd'
  match baseOf? mark with
  | none =>
    if !decimal then readDecimal token text
    else if signed then .error (token.faultAt .signedBase token.text)
    else .error (.between .decimalBase token.after text digits)
  | some base =>
    if signed then .error (token.faultAt .signedBase token.text)
    else if mark = base.mark then readBased token base digits
    else
      let named := String.ofList ['0', base.mark]
      .error (.between (.upperBase named) token.after text digits)

def readWord (token : Token) (kind word : String) (value : Json) (text : List Char) :
    Except Fault Json :=
  if text = word.toList then .ok value
  else .error (.between (.badWord kind word) token.after text [])

def floatKind : String := "floating-point number"

def readSigned (token : Token) (negative : Bool) (text : List Char) : Except Fault Json :=
  match text with
  | [] => .error (token.fault .unquoted)
  | c :: rest =>
    if isSign c then .error (token.faultAt .extraSign text)
    else if c = '0' then
      match rest with
      | [] => readInteger token 10 token.text
      | mark :: digits => readFromZero token true mark digits text
    else if c.isDigit || c == '_' then readDecimal token text
    else if c = '.' then readFloat token text
    else if c = 'i' ∨ c = 'I' then readWord token floatKind "inf" (.float (.infinite negative)) text
    else if c = 'n' ∨ c = 'N' then readWord token floatKind "nan" (.float .nan) text
    else .error (token.fault .unquoted)

def readLoneWord (token : Token) (kind word : String) (value : Json) : Except Fault Json :=
  if token.text.contains ' ' then .error (token.fault .unquoted)
  else readWord token kind word value token.text

def readScalar (token : Token) : Except Fault Json :=
  match token.text with
  | [] => .error (token.fault .unquoted)
  | c :: rest =>
    if isSign c then readSigned token (c == '-') rest
    else if c = '0' then
      match rest with
      | [] => .ok (.integer 0)
      | mark :: digits => readFromZero token false mark digits token.text
    else if c.isDigit || c == '_' then readDecimal token token.text
    else if c = '.' then readFloat token token.text
    else if c = 't' ∨ c = 'T' then readLoneWord token "boolean" "true" (.boolean true)
    else if c = 'f' ∨ c = 'F' then readLoneWord token "boolean" "false" (.boolean false)
    else if c = 'i' ∨ c = 'I' then readLoneWord token floatKind "inf" (.float (.infinite false))
    else if c = 'n' ∨ c = 'N' then readLoneWord token floatKind "nan" (.float .nan)
    else .error (token.fault .unquoted)

end QueryBlocks.Toml
