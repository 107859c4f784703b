import QueryBlocks.Text.Hexadecimal
import QueryBlocks.Toml.Token

/-!
# Reading quoted texts

Basic texts have escapes and literal texts have none; either kind may run over several lines
between threefold quotes. Line breaks stay in a text as they stand in the document.
-/

set_option autoImplicit false

namespace QueryBlocks.Toml

/-- What a backslash has begun. After one at the end of a line the break and the margin of the
next lines do not count. -/
inductive Escape where
  | none
  | started
  | hex (digits : List Char) (left value : Nat)
  | lineEnd
  | margin

def simpleEscape (c : Char) : Option Char :=
  match c with
  | '"' => some '"'
  | '\\' => some '\\'
  | 'b' => some (Char.ofNat 8)
  | 't' => some '\t'
  | 'n' => some '\n'
  | 'f' => some (Char.ofNat 12)
  | 'r' => some '\r'
  | 'e' => some (Char.ofNat 27)
  | _ => none

def codeLength (c : Char) : Option Nat :=
  match c with
  | 'x' => some 2
  | 'u' => some 4
  | 'U' => some 8
  | _ => none

def codeChar (value : Nat) : Option Char :=
  if h : value.isValidChar then some (Char.ofNatAux value h) else none

namespace Form

def isPlain (form : Form) (c : Char) : Bool := isTextChar c || (form.lines && c == '\n')

def rejected (form : Form) (text : List Char) : List Char :=
  if form.escapes then text.dropWhile fun c => !form.isPlain c && !(form.lines && c == '\r')
  else text

/-- What a character adds to a text outside escapes. All places are told by the characters behind
them, of which `after` follow the text. -/
def plainStep (form : Form) (after : Nat) (c : Char) (rest : List Char) :
    Except Fault (List Char × Escape) :=
  if form.escapes && c == '\\' then .ok ([], .started)
  else if form.isPlain c then .ok ([c], .none)
  else if form.lines && c == '\r' then
    if rest.head? = some '\n' then .ok ([c], .none)
    else .error (.before .bareReturn (after + rest.length))
  else .error (.between (.badText form) after (c :: rest) (form.rejected (c :: rest)))

def lineEndStep (after : Nat) (c : Char) (rest : List Char) : Except Fault (List Char × Escape) :=
  if c = '\n' then .ok ([], .margin)
  else if isBlankChar c then .ok ([], .lineEnd)
  else if c = '\r' then
    if rest.head? = some '\n' then .ok ([], .lineEnd)
    else .error (.before .bareReturn (after + rest.length))
  else .error (.before .noBreak (after + (c :: rest).length))

def step (form : Form) (after : Nat) (c : Char) (rest : List Char) :
    Escape → Except Fault (List Char × Escape)
  | .none => form.plainStep after c rest
  | .started =>
    match simpleEscape c, codeLength c with
    | some plain, _ => .ok ([plain], .none)
    | none, some length => .ok ([], .hex rest length 0)
    | none, none =>
      if form.lines && (isBlankChar c || c == '\n' || c == '\r') then lineEndStep after c rest
      else .error (.before .badEscape (after + (c :: rest).length))
  | .hex digits left value =>
    match Text.hexValue c with
    | none => .error (.before .shortCode (after + (c :: rest).length))
    | some digit =>
      if left ≤ 1 then
        match codeChar (16 * value + digit) with
        | some plain => .ok ([plain], .none)
        | none => .error (.before .badCode (after + digits.length))
      else .ok ([], .hex digits (left - 1) (16 * value + digit))
  | .lineEnd => lineEndStep after c rest
  | .margin =>
    if isBlankChar c || c == '\n' then .ok ([], .margin)
    else if c = '\r' then
      if rest.head? = some '\n' then .ok ([], .margin)
      else .error (.before .bareReturn (after + rest.length))
    else form.plainStep after c rest

def content (form : Form) (after : Nat) : Escape → List Char → Except Fault (List Char)
  | .none, [] | .margin, [] => .ok []
  | .started, [] => .error (.before .badEscape after)
  | .hex .., [] => .error (.before .shortCode after)
  | .lineEnd, [] => .error (.before .noBreak after)
  | escape, c :: rest => do
    let (added, escape) ← form.step after c rest escape
    return added ++ (← form.content after escape rest)

def withoutFirstBreak (form : Form) (text : List Char) : List Char :=
  match form.lines, text with
  | true, '\n' :: rest => rest
  | true, '\r' :: '\n' :: rest => rest
  | _, text => text

def read (form : Form) (token : Token) : Except Fault String :=
  let inside := form.withoutFirstBreak (token.text.drop form.quotes.length)
  let length := inside.length - form.quotes.length
  if form.quotes.length ≤ inside.length && inside.drop length = form.quotes then do
    return String.ofList
      (← form.content (token.after + form.quotes.length) .none (inside.take length))
  else .error (.before (.openText form) token.after)

end Form

end QueryBlocks.Toml
