import QueryBlocks.Toml.Fault

/-!
# Tokens of a document

A document divides into tokens without a gap: signs, blanks, line breaks, comments, quoted texts
and words. A token keeps its characters and its place, whatever is wrong inside it.
-/

set_option autoImplicit false

namespace QueryBlocks.Toml

def isTextChar (c : Char) : Bool := c == '\t' || (0x20 ≤ c.toNat && c.toNat != 0x7F)

def isBlankChar (c : Char) : Bool := c == ' ' || c == '\t'

inductive TokenKind where
  | dot
  | equals
  | comma
  | openArray
  | closeArray
  | openTable
  | closeTable
  | blanks
  | lineBreak
  | comment
  | word
  | quoted (form : Form)
deriving DecidableEq

def signKind (c : Char) : Option TokenKind :=
  match c with
  | '.' => some .dot
  | '=' => some .equals
  | ',' => some .comma
  | '[' => some .openArray
  | ']' => some .closeArray
  | '\x7b' => some .openTable
  | '\x7d' => some .closeTable
  | _ => none

def isWordChar (c : Char) : Bool :=
  (signKind c).isNone && !isBlankChar c && c != '#' && c != '\n' && c != '\r'

def Form.opened (quote : Char) (rest : List Char) : Form :=
  { quote, lines := rest.take 2 == [quote, quote] }

namespace Form

/-- How many closing quotes start with the character. Up to two quotes before three more belong
to a text of several lines. -/
def closing? (form : Form) (c : Char) (rest : List Char) : Option Nat :=
  if c != form.quote then none
  else if !form.lines then some 1
  else if rest.take 2 = [form.quote, form.quote] then
    some (3 + ((rest.drop 2).takeWhile (· == form.quote)).length.min 2)
  else none

/-- How many characters belong to a text after its opening quotes, the closing quotes among them.
A backslash keeps a quote from closing. A text of one line reaches to the end of its line if
nothing closes it, a text of several lines to the end of the document. -/
def extent (form : Form) (escaped : Bool) : List Char → Nat
  | [] => 0
  | c :: rest =>
    if escaped && (c == '\\' || c == form.quote) then 1 + form.extent false rest
    else if form.escapes && c == '\\' then 1 + form.extent true rest
    else if !form.lines && c == '\n' then 0
    else match form.closing? c rest with
      | some count => count
      | none => 1 + form.extent false rest

end Form

def tokenStart (c : Char) (rest : List Char) : TokenKind × Nat :=
  match signKind c with
  | some kind => (kind, 0)
  | none =>
    if isBlankChar c then (.blanks, (rest.takeWhile isBlankChar).length)
    else if c = '\n' then (.lineBreak, 0)
    else if c = '\r' then (.lineBreak, if rest.head? = some '\n' then 1 else 0)
    else if c = '#' then
      (.comment, (rest.takeWhile fun d => d != '\n' && d != '\r').length)
    else if c = '"' ∨ c = '\x27' then
      let form := Form.opened c rest
      let more := form.quotes.length - 1
      (.quoted form, more + form.extent false (rest.drop more))
    else (.word, (rest.takeWhile isWordChar).length)

structure Token where
  kind : TokenKind
  text : List Char
  after : Nat

namespace Token

def start (token : Token) : Nat := token.after + token.text.length

def span (token : Token) : Span := { start := token.start, stop := token.after }

def fault (token : Token) (problem : Problem) : Fault := { problem, span := token.span }

def missing (left : Nat) : Token := { kind := .word, text := [], after := left }

def check (token : Token) : Except Fault Unit :=
  match token.kind with
  | .lineBreak =>
    if token.text = ['\r'] then .error (.before .bareReturn token.after) else .ok ()
  | .comment =>
    match token.text.dropWhile isTextChar with
    | [] => .ok ()
    | rest => .error (.before .badComment (token.after + rest.length))
  | _ => .ok ()

def isPart (token : Token) : Bool :=
  match token.kind with
  | .word | .quoted _ => true
  | _ => false

end Token

def tokensWithin : Nat → List Char → List Token
  | 0, _ => []
  | _, [] => []
  | most + 1, c :: rest =>
    let (kind, more) := tokenStart c rest
    let later := rest.drop more
    { kind, text := c :: rest.take more, after := later.length } :: tokensWithin most later

def tokens (text : List Char) : List Token := tokensWithin text.length text

def placeOf : List Token → Nat
  | [] => 0
  | token :: _ => token.start

end QueryBlocks.Toml
