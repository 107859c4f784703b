/-!
# Writing texts and keys

A text is written in the plainest form that needs no escape, a key without quotes where that is
possible.
-/

set_option autoImplicit false

namespace QueryBlocks.Toml

def longestRun (c : Char) (text : List Char) : Nat :=
  (text.foldl
    (fun (state : Nat × Nat) x =>
      let run := if x = c then state.1 + 1 else 0
      (run, max state.2 run))
    (0, 0)).2

def isControlChar (c : Char) : Bool :=
  c != '\t' && c != '\n' && (c.toNat < 0x20 || c.toNat == 0x7F)

def fourHex (n : Nat) : List Char :=
  [3, 2, 1, 0].map fun place => (Nat.digitChar (n / Nat.pow 16 place % 16)).toUpper

def escapeChar (c : Char) : List Char :=
  if c = '\\' then ['\\', '\\']
  else if c = '"' then ['\\', '"']
  else if c = '\t' then ['\\', 't']
  else if c = '\n' then ['\\', 'n']
  else if c = '\r' then ['\\', 'r']
  else if c.toNat = 8 then ['\\', 'b']
  else if c.toNat = 12 then ['\\', 'f']
  else '\\' :: 'u' :: fourHex c.toNat

/-- The inside of a basic text; `run` quotes were just written, and `most` may stand. -/
def escapeText (lines : Bool) (most : Nat) : Nat → List Char → List Char
  | _, [] => []
  | run, c :: rest =>
    if c = '"' then
      if run < most then c :: escapeText lines most (run + 1) rest
      else escapeChar c ++ escapeText lines most 0 rest
    else if c = '\n' && lines then c :: escapeText lines most 0 rest
    else if c = '\\' || c = '\t' || c = '\n' || isControlChar c then
      escapeChar c ++ escapeText lines most 0 rest
    else c :: escapeText lines most 0 rest

def basicLine (text : List Char) : List Char := '"' :: escapeText false 0 0 text ++ ['"']

def breakBefore (text : List Char) : List Char := if text.contains '\n' then ['\n'] else []

def basicLines (text : List Char) : List Char :=
  "\"\"\"".toList ++ breakBefore text ++ escapeText true 2 0 text ++ "\"\"\"".toList

def literalLine (text : List Char) : List Char := '\x27' :: text ++ ['\x27']

def literalLines (text : List Char) : List Char :=
  List.replicate 3 '\x27' ++ breakBefore text ++ text ++ List.replicate 3 '\x27'

def textValue (value : String) : String :=
  let text := value.toList
  let control := text.any isControlChar
  let escape := text.contains '\\'
  let breaks := text.contains '\n'
  let quotes := longestRun '"' text
  let marks := longestRun '\x27' text
  String.ofList <|
    if !control && !escape && quotes = 0 && !breaks then basicLine text
    else if !control && marks = 0 && !breaks then literalLine text
    else if !control && !escape && quotes ≤ 2 then basicLines text
    else if !control && marks ≤ 2 then literalLines text
    else if breaks then basicLines text
    else basicLine text

def isBareChar (c : Char) : Bool := c.isAlphanum || c == '-' || c == '_'

def keyText (key : String) : String :=
  let text := key.toList
  let control := text.any fun c => isControlChar c || c == '\n'
  String.ofList <|
    if !text.isEmpty && text.all isBareChar then text
    else if !control && !text.contains '\\' && !text.contains '"' then basicLine text
    else if !control && !text.contains '\x27' then literalLine text
    else basicLine text

end QueryBlocks.Toml
