import QueryBlocks.Json.Number
import QueryBlocks.Text.Bytes
import QueryBlocks.Text.Hexadecimal

/-!
# Reading JSON

The reader is a pushdown automaton: a stack of open arrays and objects and what is being
read now. It takes one character at a time, so a text is read by one fold over it. Nesting
is limited, numbers must be in range, and the halves of a surrogate pair come together.
-/

set_option autoImplicit false

namespace QueryBlocks.Json

inductive SyntaxFault where
  | endInArray
  | endInObject
  | endInString
  | endInValue
  | expectedColon
  | expectedArrayCommaOrEnd
  | expectedObjectCommaOrEnd
  | expectedLiteral
  | expectedValue
  | invalidEscape
  | invalidNumber
  | numberOutOfRange
  | controlCharacter
  | keyNotString
  | loneSurrogate
  | missingSurrogate
  | trailingComma
  | trailingCharacters
  | tooDeep
deriving DecidableEq

def SyntaxFault.message : SyntaxFault → String
  | .endInArray => "EOF while parsing a list"
  | .endInObject => "EOF while parsing an object"
  | .endInString => "EOF while parsing a string"
  | .endInValue => "EOF while parsing a value"
  | .expectedColon => "expected `:`"
  | .expectedArrayCommaOrEnd => "expected `,` or `]`"
  | .expectedObjectCommaOrEnd => "expected `,` or `\x7d`"
  | .expectedLiteral => "expected ident"
  | .expectedValue => "expected value"
  | .invalidEscape => "invalid escape"
  | .invalidNumber => "invalid number"
  | .numberOutOfRange => "number out of range"
  | .controlCharacter => "control character (\\u0000-\\u001F) found while parsing a string"
  | .keyNotString => "key must be a string"
  | .loneSurrogate => "lone leading surrogate in hex escape"
  | .missingSurrogate => "unexpected end of hex escape"
  | .trailingComma => "trailing comma"
  | .trailingCharacters => "trailing characters"
  | .tooDeep => "recursion limit exceeded"

inductive Open where
  | array (items : List Json)
  | object (members : List (String × Json)) (key : String)

inductive Escape where
  | none
  | started
  | hex (high : Option Nat) (digits : List Char)
  | pairBackslash (high : Nat)
  | pairMark (high : Nat)

inductive NumberStage where
  | sign
  | zero
  | whole
  | point
  | fraction
  | exponentMark
  | exponentSign
  | exponent
deriving DecidableEq

inductive Mode where
  | value (first : Bool)
  | key (first : Bool)
  | colon (key : String)
  | afterValue
  | string (isKey : Bool) (text : List Char) (escape : Escape)
  | number (stage : NumberStage) (text : NumberText)
  | literal (rest : List Char) (value : Json)
  | done (value : Json)

structure Reader where
  stack : List Open
  mode : Mode

/-- A fault, and how many bytes of the character at hand were read when it showed. -/
structure Fault where
  cause : SyntaxFault
  bytes : Nat

abbrev Step := Except Fault Reader

def failAt (cause : SyntaxFault) : Step := .error { cause, bytes := 1 }

def isSpace (c : Char) : Bool := c == ' ' || c == '\n' || c == '\t' || c == '\r'

def complete (stack : List Open) (value : Json) : Reader :=
  match stack with
  | [] => { stack := [], mode := .done value }
  | .array items :: rest => { stack := .array (value :: items) :: rest, mode := .afterValue }
  | .object members key :: rest =>
    { stack := .object (insertMember key value members) key :: rest, mode := .afterValue }

def startValue (depth : Nat) (stack : List Open) (c : Char) : Step :=
  let number (stage : NumberStage) (negative : Bool) (whole : List Char) : Step :=
    .ok { stack
          mode := .number stage { negative, whole, fraction := [], exponent := none } }
  if c = '"' then .ok { stack, mode := .string false [] .none }
  else if c = '[' then
    if stack.length < depth then .ok { stack := .array [] :: stack, mode := .value true }
    else failAt .tooDeep
  else if c.toNat = 0x7B then
    if stack.length < depth then .ok { stack := .object [] "" :: stack, mode := .key true }
    else failAt .tooDeep
  else if c = '-' then number .sign true []
  else if c = '0' then number .zero false ['0']
  else if c.isDigit then number .whole false [c]
  else if c = 't' then .ok { stack, mode := .literal ['r', 'u', 'e'] (.boolean true) }
  else if c = 'f' then .ok { stack, mode := .literal ['a', 'l', 's', 'e'] (.boolean false) }
  else if c = 'n' then .ok { stack, mode := .literal ['u', 'l', 'l'] .null }
  else failAt .expectedValue

def afterValue (reader : Reader) (c : Char) : Step :=
  if isSpace c then .ok reader
  else match reader.stack with
    | [] => failAt .trailingCharacters
    | .array items :: rest =>
      if c = ']' then .ok (complete rest (.array items.reverse))
      else if c = ',' then .ok { reader with mode := .value false }
      else failAt .expectedArrayCommaOrEnd
    | .object members _ :: rest =>
      if c.toNat = 0x7D then .ok (complete rest (.object members))
      else if c = ',' then .ok { reader with mode := .key false }
      else failAt .expectedObjectCommaOrEnd

def closeEmpty (reader : Reader) : Step :=
  match reader.stack with
  | .array _ :: rest => .ok (complete rest (.array []))
  | .object _ _ :: rest => .ok (complete rest (.object []))
  | [] => failAt .expectedValue

def finishHex (high : Option Nat) (code : Nat) : Except SyntaxFault (Char ⊕ Nat) :=
  let isLow := 0xDC00 ≤ code && code ≤ 0xDFFF
  match high with
  | none =>
    if isLow then .error .loneSurrogate
    else if 0xD800 ≤ code && code ≤ 0xDBFF then .ok (.inr code)
    else .ok (.inl (Char.ofNat code))
  | some first =>
    if isLow then .ok (.inl (Char.ofNat ((first - 0xD800) * 0x400 + (code - 0xDC00) + 0x10000)))
    else .error .loneSurrogate

def simpleEscape (c : Char) : Option Char :=
  if c = '"' ∨ c = '\\' ∨ c = '/' then some c
  else if c = 'b' then some (Char.ofNat 8)
  else if c = 'f' then some (Char.ofNat 12)
  else if c = 'n' then some '\n'
  else if c = 'r' then some '\r'
  else if c = 't' then some '\t'
  else none

def hexBytes : Nat := 4

def stepString (stack : List Open) (isKey : Bool) (text : List Char) (escape : Escape)
    (c : Char) : Step :=
  let stay (text : List Char) (escape : Escape) : Step :=
    .ok { stack, mode := .string isKey text escape }
  match escape with
  | .none =>
    if c = '"' then
      let content := String.ofList text.reverse
      if isKey then .ok { stack, mode := .colon content }
      else .ok (complete stack (.string content))
    else if c = '\\' then stay text .started
    else if c.toNat < 0x20 then failAt .controlCharacter
    else stay (c :: text) .none
  | .started =>
    if c = 'u' then stay text (.hex none [])
    else match simpleEscape c with
      | some plain => stay (plain :: text) .none
      | none => failAt .invalidEscape
  | .hex high digits =>
    let taken := Text.byteLength digits
    if taken + c.utf8Size < hexBytes then stay text (.hex high (digits ++ [c]))
    else match Text.readInBase 16 (digits ++ [c]) with
      | none => .error { cause := .invalidEscape, bytes := hexBytes - taken }
      | some code => match finishHex high code with
        | .error cause => failAt cause
        | .ok (.inl plain) => stay (plain :: text) .none
        | .ok (.inr first) => stay text (.pairBackslash first)
  | .pairBackslash high => if c = '\\' then stay text (.pairMark high) else failAt .missingSurrogate
  | .pairMark high =>
    if c = 'u' then stay text (.hex (some high) []) else failAt .missingSurrogate

def completeNumber (stack : List Open) (text : NumberText) : Step :=
  match numberValue { text with
      whole := text.whole.reverse
      fraction := text.fraction.reverse } with
  | some value => .ok (complete stack value)
  | none => .error { cause := .numberOutOfRange, bytes := 0 }

def stepNumber (stack : List Open) (stage : NumberStage) (text : NumberText) (c : Char) : Step :=
  let next (stage : NumberStage) (text : NumberText) : Step :=
    .ok { stack, mode := .number stage text }
  let isE := c == 'e' || c == 'E'
  let finish : Step := do afterValue (← completeNumber stack text) c
  let startExponent : Step := next .exponentMark { text with exponent := some ⟨false, 0⟩ }
  let addExponent : Step :=
    let longer := text.addExponent c
    if longer.isBeyondRange then failAt .numberOutOfRange else next .exponent longer
  match stage with
  | .sign =>
    if c = '0' then next .zero { text with whole := ['0'] }
    else if c.isDigit then next .whole { text with whole := [c] }
    else failAt .invalidNumber
  | .zero =>
    if c.isDigit then failAt .invalidNumber
    else if c = '.' then next .point text
    else if isE then startExponent
    else finish
  | .whole =>
    if c.isDigit then next .whole { text with whole := c :: text.whole }
    else if c = '.' then next .point text
    else if isE then startExponent
    else finish
  | .point =>
    if c.isDigit then next .fraction { text with fraction := [c] } else failAt .invalidNumber
  | .fraction =>
    if c.isDigit then next .fraction { text with fraction := c :: text.fraction }
    else if isE then startExponent
    else finish
  | .exponentMark =>
    if c = '+' then next .exponentSign text
    else if c = '-' then next .exponentSign { text with exponent := some ⟨true, 0⟩ }
    else if c.isDigit then addExponent
    else failAt .invalidNumber
  | .exponentSign => if c.isDigit then addExponent else failAt .invalidNumber
  | .exponent => if c.isDigit then addExponent else finish

def step (depth : Nat) (reader : Reader) (c : Char) : Step :=
  match reader.mode with
  | .value first =>
    if isSpace c then .ok reader
    else match reader.stack, decide (c = ']') with
      | .array _ :: _, true => if first then closeEmpty reader else failAt .trailingComma
      | stack, _ => startValue depth stack c
  | .key first =>
    if isSpace c then .ok reader
    else if c = '"' then .ok { reader with mode := .string true [] .none }
    else if c.toNat = 0x7D then if first then closeEmpty reader else failAt .trailingComma
    else failAt .keyNotString
  | .colon key =>
    if isSpace c then .ok reader
    else if c = ':' then
      let stack := match reader.stack with
        | .object members _ :: rest => .object members key :: rest
        | other => other
      .ok { stack, mode := .value false }
    else failAt .expectedColon
  | .afterValue => afterValue reader c
  | .string isKey text escape => stepString reader.stack isKey text escape c
  | .number stage text => stepNumber reader.stack stage text c
  | .literal [] _ => failAt .expectedLiteral
  | .literal (expected :: rest) value =>
    if c ≠ expected then failAt .expectedLiteral
    else if rest.isEmpty then .ok (complete reader.stack value)
    else .ok { reader with mode := .literal rest value }
  | .done _ => if isSpace c then .ok reader else failAt .trailingCharacters

structure Place where
  line : Nat
  column : Nat

namespace Place

def start : Place := { line := 1, column := 0 }

def after (place : Place) (c : Char) : Place :=
  if c = '\n' then { line := place.line + 1, column := 0 }
  else { place with column := place.column + c.utf8Size }

def afterBytes (place : Place) (bytes : Nat) (c : Char) : Place :=
  if bytes = 0 then place
  else if c = '\n' then place.after c
  else { place with column := place.column + bytes }

end Place

structure SyntaxError where
  cause : SyntaxFault
  place : Place

def SyntaxError.message (e : SyntaxError) : String :=
  e.cause.message ++ " at line " ++ toString e.place.line ++ " column " ++ toString e.place.column

def run (depth : Nat) : List Char → Place → Reader → Except SyntaxError (Reader × Place)
  | [], place, reader => .ok (reader, place)
  | c :: rest, place, reader =>
    match step depth reader c with
    | .ok next => run depth rest (place.after c) next
    | .error fault =>
      .error { cause := fault.cause, place := place.afterBytes fault.bytes c }

def endFault (reader : Reader) : SyntaxFault :=
  match reader.mode with
  | .value true | .afterValue =>
    match reader.stack with
    | .array _ :: _ => .endInArray
    | .object _ _ :: _ => .endInObject
    | [] => .endInValue
  | .key true | .colon _ => .endInObject
  | .string .. => .endInString
  | _ => .endInValue

def finish (reader : Reader) : Except SyntaxFault Json :=
  match reader.mode with
  | .done value => .ok value
  | .number stage text =>
    if stage ∈ [.zero, .whole, .fraction, .exponent] then
      match completeNumber reader.stack text with
      | .ok { mode := .done value, .. } => .ok value
      | .ok closed => .error (endFault closed)
      | .error fault => .error fault.cause
    else .error .endInValue
  | _ => .error (endFault reader)

def parseNested (depth : Nat) (text : String) : Except SyntaxError Json := do
  let (reader, place) ← run depth text.toList .start { stack := [], mode := .value false }
  (finish reader).mapError fun cause => { cause, place }

def maxDepth : Nat := 127

def parse (text : String) : Except SyntaxError Json := parseNested maxDepth text

end QueryBlocks.Json
