import QueryBlocks.Text.Hexadecimal
import QueryBlocks.Proofs.Text.Scanner

/-!
# Tokens of the query language

The lexical rules of query documents: marks, names, numbers, strings and block strings, with
blanks, line ends, commas and comments between them. A token is as long as it can be.
-/

set_option autoImplicit false

namespace QueryBlocks.Query

inductive Token where
  | mark (c : Char)
  | spread
  | name (text : String)
  | int (text : String)
  | float (text : String)
  | string (text : String)
  | block (raw : String)
deriving DecidableEq

def isNameStart (c : Char) : Bool := c.isAlpha || c == '_'

def isNamePart (c : Char) : Bool := isNameStart c || c.isDigit

def isName (text : String) : Bool :=
  match text.toList with
  | [] => false
  | first :: rest => isNameStart first && rest.all isNamePart

def isIgnored (c : Char) : Bool := " \t\n\r,\ufeff".toList.contains c

def isMark (c : Char) : Bool := "!$&():=@[]\x7b|\x7d".toList.contains c

def isLineEnd (c : Char) : Bool := c == '\n' || c == '\r'

inductive Stage where
  | sign
  | zero
  | whole
  | point
  | fraction
  | exponentMark
  | exponentSign
  | exponent

namespace Stage

def next : Stage → Char → Option Stage
  | .sign, c => if c = '0' then some .zero else if c.isDigit then some .whole else none
  | .zero, c => afterWhole c
  | .whole, c => if c.isDigit then some .whole else afterWhole c
  | .point, c => if c.isDigit then some .fraction else none
  | .fraction, c => if c.isDigit then some .fraction else afterDigits c
  | .exponentMark, c =>
    if c = '+' ∨ c = '-' then some .exponentSign else if c.isDigit then some .exponent else none
  | .exponentSign, c => if c.isDigit then some .exponent else none
  | .exponent, c => if c.isDigit then some .exponent else none
where
  afterDigits (c : Char) : Option Stage :=
    if c = 'e' ∨ c = 'E' then some .exponentMark else none
  afterWhole (c : Char) : Option Stage := if c = '.' then some .point else afterDigits c

def token? : Stage → List Char → Option Token
  | .zero, text => some (.int (String.ofList text))
  | .whole, text => some (.int (String.ofList text))
  | .fraction, text => some (.float (String.ofList text))
  | .exponent, text => some (.float (String.ofList text))
  | _, _ => none

end Stage

/-- Where the scanner stands. In a string, `code` is behind the start of an escape by code,
`braced` behind one with a brace, and the two places of a surrogate wait for its other half. -/
inductive Place where
  | between
  | comment
  | dots (seen : Nat)
  | name (text : List Char)
  | number (stage : Stage) (text : List Char)
  | quote
  | quotes
  | string (text : List Char)
  | escape (text : List Char)
  | code (text : List Char) (leading : Option Nat) (digits value : Nat)
  | braced (text : List Char) (value : Option Nat)
  | surrogate (text : List Char) (leading : Nat)
  | surrogateEscape (text : List Char) (leading : Nat)
  | block (raw : List Char) (quotes : Nat)
  | blockEscape (raw : List Char) (quotes : Nat)

def begin? (c : Char) : Option (List Token × Place) :=
  if isIgnored c then some ([], .between)
  else if isMark c then some ([.mark c], .between)
  else if isNameStart c then some ([], .name [c])
  else if c = '"' then some ([], .quote)
  else if c = '-' then some ([], .number .sign [c])
  else if c = '0' then some ([], .number .zero [c])
  else if c.isDigit then some ([], .number .whole [c])
  else if c = '#' then some ([], .comment)
  else if c = '.' then some ([], .dots 1)
  else none

def endWith (token : Token) (c : Char) : Option (List Token × Place) :=
  (begin? c).map fun found => (token :: found.1, found.2)

def unescape (c : Char) : Option Char :=
  if c = '"' then some '"'
  else if c = '\\' then some '\\'
  else if c = '/' then some '/'
  else if c = 'b' then some '\x08'
  else if c = 'f' then some '\x0c'
  else if c = 'n' then some '\n'
  else if c = 'r' then some '\r'
  else if c = 't' then some '\t'
  else none

def addCode (text : List Char) (value : Nat) : Option Place :=
  if value.isValidChar then some (.string (text ++ [Char.ofNat value])) else none

def endCode (text : List Char) (leading : Option Nat) (value : Nat) : Option Place :=
  match leading with
  | none =>
    if 0xD800 ≤ value ∧ value < 0xDC00 then some (.surrogate text value) else addCode text value
  | some high =>
    if 0xDC00 ≤ value ∧ value < 0xE000 then
      addCode text (0x10000 + (high - 0xD800) * 0x400 + (value - 0xDC00))
    else none

def scanCode (text : List Char) (leading : Option Nat) (digits value : Nat) (c : Char) :
    Option Place :=
  if c = '{' ∧ leading = none ∧ digits = 0 then some (.braced text none)
  else (Text.hexValue c).bind fun digit =>
    if digits = 3 then endCode text leading (16 * value + digit)
    else some (.code text leading (digits + 1) (16 * value + digit))

def scanBraced (text : List Char) (value : Option Nat) (c : Char) : Option Place :=
  if c = '}' then value.bind (addCode text)
  else (Text.hexValue c).map fun digit => .braced text (some (16 * value.getD 0 + digit))

def scanString (text : List Char) (c : Char) : Option (List Token × Place) :=
  if c = '"' then some ([.string (String.ofList text)], .between)
  else if c = '\\' then some ([], .escape text)
  else if isLineEnd c then none
  else some ([], .string (text ++ [c]))

def scanBlock (raw : List Char) (c : Char) : Place :=
  if c = '\\' then .blockEscape raw 0 else .block (raw ++ [c]) 0

def scanChar (place : Place) (c : Char) : Option (List Token × Place) :=
  match place with
  | .between => begin? c
  | .comment => some ([], if isLineEnd c then .between else .comment)
  | .dots seen =>
    if c ≠ '.' then none
    else if seen = 2 then some ([.spread], .between)
    else some ([], .dots (seen + 1))
  | .name text =>
    if isNamePart c then some ([], .name (text ++ [c])) else endWith (.name (String.ofList text)) c
  | .number stage text =>
    match stage.next c with
    | some next => some ([], .number next (text ++ [c]))
    | none =>
      if isNamePart c ∨ c = '.' then none
      else (stage.token? text).bind fun token => endWith token c
  | .quote => if c = '"' then some ([], .quotes) else scanString [] c
  | .quotes => if c = '"' then some ([], .block [] 0) else endWith (.string "") c
  | .string text => scanString text c
  | .escape text =>
    if c = 'u' then some ([], .code text none 0 0)
    else (unescape c).map fun d => ([], .string (text ++ [d]))
  | .code text leading digits value => (scanCode text leading digits value c).map ([], ·)
  | .braced text value => (scanBraced text value c).map ([], ·)
  | .surrogate text leading =>
    if c = '\\' then some ([], .surrogateEscape text leading) else none
  | .surrogateEscape text leading =>
    if c = 'u' then some ([], .code text (some leading) 0 0) else none
  | .block raw quotes =>
    if c ≠ '"' then some ([], scanBlock (raw ++ List.replicate quotes '"') c)
    else if quotes = 2 then some ([.block (String.ofList raw)], .between)
    else some ([], .block raw (quotes + 1))
  | .blockEscape raw quotes =>
    if c ≠ '"' then some ([], scanBlock (raw ++ '\\' :: List.replicate quotes '"') c)
    else if quotes = 2 then some ([], .block (raw ++ List.replicate 3 '"') 0)
    else some ([], .blockEscape raw (quotes + 1))

def scanEnd : Place → Option (List Token)
  | .between => some []
  | .comment => some []
  | .name text => some [.name (String.ofList text)]
  | .number stage text => (stage.token? text).map ([·])
  | .quotes => some [.string ""]
  | _ => none

def scanner : Scanner Token Place where
  start := .between
  step := scanChar
  finish := scanEnd
  apart := fun c => isIgnored c || isMark c

end QueryBlocks.Query
