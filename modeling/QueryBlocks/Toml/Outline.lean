import QueryBlocks.Toml.Token

/-!
# The outline of a document

Statements, arrays and inline tables, with the words and texts in them not read yet. The whole
outline is settled before anything in it gets a meaning, so a bracket without its partner is told
rather than a bad number before it.
-/

set_option autoImplicit false

namespace QueryBlocks.Toml

inductive Draft where
  | scalar (token : Token)
  | array (span : Span) (items : List Draft)
  | table (span : Span) (entries : List (List Token × Draft))

inductive Statement where
  | assignment (key : List Token) (value : Draft)
  | header (array : Bool) (key : List Token) (span : Span)

def maxDepth : Nat := 80

def skipBlanks (tokens : List Token) : List Token := tokens.dropWhile (·.kind = .blanks)

def skipLayout : List Token → Except Fault (List Token)
  | [] => .ok []
  | token :: rest =>
    if token.kind = .blanks then skipLayout rest
    else if token.kind = .lineBreak ∨ token.kind = .comment then do
      token.check
      skipLayout rest
    else .ok (token :: rest)

def endLine : List Token → Except Fault (List Token)
  | [] => .ok []
  | token :: rest =>
    match token.kind with
    | .blanks => endLine rest
    | .comment => do
      token.check
      endLine rest
    | .lineBreak => do
      token.check
      return rest
    | _ => .error (.before .afterStatement token.start)

def skipLine : List Token → Except Fault (List Token)
  | [] => .ok []
  | token :: rest => do
    token.check
    if token.kind = .lineBreak then return rest else skipLine rest

structure DraftKey where
  parts : List Token
  /-- Whether a part stands at its end. -/
  ended : Bool

/-- The parts of a dotted key, and what follows it. Where no part stands between dots the key has
an empty one. `wanted` tells whether a part comes next. -/
def readKey (wanted : Bool) : List Token → DraftKey × List Token
  | [] => ({ parts := if wanted then [.missing 0] else [], ended := !wanted }, [])
  | token :: rest =>
    if token.kind = .blanks then readKey wanted rest
    else if wanted then
      if token.isPart then
        let (key, rest) := readKey false rest
        ({ key with parts := token :: key.parts }, rest)
      else if token.kind = .dot then
        let (key, rest) := readKey true rest
        ({ key with parts := .missing token.start :: key.parts }, rest)
      else ({ parts := [.missing token.start], ended := false }, token :: rest)
    else if token.kind = .dot then readKey true rest
    else ({ parts := [], ended := true }, token :: rest)

/-- Words, dots and the blanks between them are one value; `text` holds what came before, `blanks`
those right before, and `rest` follows the last word. -/
def gatherWords (text : List Char) (after : Nat) (rest : List Token) (blanks : List Char) :
    List Token → Token × List Token
  | [] => ({ kind := .word, text, after }, rest)
  | token :: more =>
    if token.kind = .word ∨ token.kind = .dot then
      gatherWords (text ++ blanks ++ token.text) token.after more [] more
    else if token.kind = .blanks then gatherWords text after rest (blanks ++ token.text) more
    else ({ kind := .word, text, after }, rest)

abbrev Members (α : Type) := List α × Nat × List Token

def misplaced (wanted : Want) (token : Token) : Fault :=
  match token.kind, wanted with
  | .comma, _ => token.fault (.inTable .extraComma wanted)
  | .equals, _ => token.fault (.inTable .extraEquals wanted)
  | .closeArray, _ => token.fault (.inTable .badEntry wanted)
  | _, .equals => .before (.inTable .noEquals wanted) token.start
  | .openArray, _ | .openTable, _ => .before (.inTable .noKey wanted) token.start
  | _, _ => .before (.inTable .noComma wanted) token.start

mutual

def readDraft : Nat → Nat → List Token → Except Fault (Draft × List Token)
  | 0, _, tokens => .error (.before .tooDeep (placeOf tokens))
  | _, _, [] => .ok (.scalar (.missing 0), [])
  | fuel + 1, depth, token :: rest =>
    match token.kind with
    | .quoted _ => .ok (.scalar token, rest)
    | .openArray =>
      if depth = 0 then .error (token.fault .tooDeep)
      else do
        let (items, after, rest) ← readItems fuel (depth - 1) false [] rest
        return (.array { start := token.start, stop := after } items, rest)
    | .openTable =>
      if depth = 0 then .error (token.fault .tooDeep)
      else do
        let (entries, after, rest) ← readEntries fuel (depth - 1) .key [] [] rest
        return (.table { start := token.start, stop := after } entries, rest)
    | .equals => .error (token.fault .extraEquals)
    | .closeArray => .error (token.fault .noArrayStart)
    | .closeTable => .error (token.fault .noTableStart)
    | .word | .dot | .blanks =>
      let (word, rest) := gatherWords token.text token.after rest [] rest
      .ok (.scalar word, rest)
    | .comma | .lineBreak | .comment => .ok (.scalar (.missing token.start), token :: rest)

def readItems : Nat → Nat → Bool → List Draft → List Token → Except Fault (Members Draft)
  | 0, _, _, _, tokens => .error (.before .openArray (placeOf tokens))
  | fuel + 1, depth, full, items, tokens => do
    match ← skipLayout tokens with
    | [] => .error (.before .openArray 0)
    | token :: rest =>
      match token.kind with
      | .closeArray => return (items.reverse, token.after, rest)
      | .comma =>
        if full then readItems fuel depth false items rest else .error (token.fault .extraComma)
      | .equals => .error (token.fault .equalsInArray)
      | .closeTable => .error (token.fault (.badItem (if full then .comma else .value)))
      | _ =>
        if full then .error (.before .noItemComma token.start)
        else do
          let (item, rest) ← readDraft fuel depth (token :: rest)
          readItems fuel depth true (item :: items) rest

def readEntries : Nat → Nat → Want → List Token → List (List Token × Draft) → List Token →
    Except Fault (Members (List Token × Draft))
  | 0, _, _, _, _, tokens => .error (.before .openTable (placeOf tokens))
  | fuel + 1, depth, wanted, key, entries, tokens => do
    match ← skipLayout tokens with
    | [] => .error (.before .openTable 0)
    | token :: rest =>
      match wanted, token.kind with
      | .key, .closeTable | .comma, .closeTable => return (entries.reverse, token.after, rest)
      | .value, .closeTable =>
        return (((key, .scalar (.missing token.start)) :: entries).reverse, token.after, rest)
      | .comma, .comma => readEntries fuel depth .key [] entries rest
      | .equals, .equals => readEntries fuel depth .value key entries rest
      | .key, .equals => readEntries fuel depth .value [.missing token.start] entries rest
      | .key, .word | .key, .dot | .key, .quoted _ =>
        let (found, rest) := readKey true (token :: rest)
        readEntries fuel depth .equals found.parts entries rest
      | .value, .word | .value, .dot | .value, .quoted _ | .value, .openArray
      | .value, .openTable => do
        let (value, rest) ← readDraft fuel depth (token :: rest)
        readEntries fuel depth .comma [] ((key, value) :: entries) rest
      | _, _ => .error (misplaced wanted token)

end

def readHeader (array : Bool) (start : Nat) (tokens : List Token) :
    Except Fault (Statement × List Token) :=
  let (key, rest) := readKey true tokens
  let ended (after : Nat) (rest : List Token) : Except Fault (Statement × List Token) := do
    return (.header array key.parts { start, stop := after }, ← endLine rest)
  let (closing, more) := rest.span (·.kind = .closeArray)
  match array, closing with
  | true, _ :: second :: later => ended second.after (later ++ more)
  | true, [first] => .error (.before (.noHeaderEnd true "]") first.after)
  | false, first :: later => ended first.after (later ++ more)
  | _, [] =>
    if key.ended then
      .error (.before (.noHeaderEnd array (if array then "]]" else "]"))
        ((key.parts.getLast?.map (·.after)).getD 0))
    else do return (.header array key.parts { start, stop := start }, ← skipLine rest)

def readAssignment (tokens : List Token) : Except Fault (Statement × List Token) :=
  let (key, rest) := readKey true tokens
  match rest with
  | token :: rest =>
    if token.kind = .equals then do
      let (value, rest) ← readDraft (2 * rest.length + 2) maxDepth (skipBlanks rest)
      return (.assignment key.parts value, ← endLine rest)
    else .error (.before .noEquals token.start)
  | [] => .error (.before .noEquals 0)

def readStatement (token : Token) (rest : List Token) : Except Fault (Statement × List Token) :=
  match token.kind, rest with
  | .openArray, second :: more =>
    if second.kind = .openArray then readHeader true token.start more
    else readHeader false token.start rest
  | .openArray, [] => readHeader false token.start []
  | .closeArray, _ => .error (token.fault .noHeaderStart)
  | .comma, _ | .openTable, _ | .closeTable, _ => .error (token.fault .noKey)
  | _, _ => readAssignment (token :: rest)

def readStatements : Nat → List Statement → List Token → Except Fault (List Statement)
  | 0, statements, _ => .ok statements.reverse
  | fuel + 1, statements, tokens => do
    match ← skipLayout tokens with
    | [] => return statements.reverse
    | token :: rest =>
      let (statement, rest) ← readStatement token rest
      readStatements fuel (statement :: statements) rest

def outline (tokens : List Token) : Except Fault (List Statement) :=
  readStatements tokens.length [] tokens

end QueryBlocks.Toml
