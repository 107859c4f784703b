import QueryBlocks.Toml.Outline
import QueryBlocks.Toml.Quoted
import QueryBlocks.Toml.Scalar
import QueryBlocks.Toml.Table
import QueryBlocks.Toml.Text

/-!
# Reading a TOML document

A document is a run of statements: headers, which say which table comes next, and assignments to
keys of the table at hand. Once its outline is known, keys and values are read in their order, and
reading stops at the first fault.
-/

set_option autoImplicit false

namespace QueryBlocks.Toml

def keyPart (token : Token) : Except Fault Key :=
  match token.kind with
  | .quoted form =>
    if form.lines then .error (token.fault (.keyOfLines form))
    else do return { name := ← form.read token, span := token.span }
  | _ =>
    if token.text.isEmpty then .error (token.fault .emptyKey)
    else match token.text.dropWhile isBareChar with
      | [] => .ok { name := String.ofList token.text, span := token.span }
      | rest => .error (token.faultBefore .badKey rest)

abbrev KeyPath := List Key × Key

def keyPath : Nat → List Token → Except Fault KeyPath
  | 0, tokens => .error (.before .longKey (placeOf tokens))
  | _, [] => .error (.before .emptyKey 0)
  | _, [token] => do return ([], ← keyPart token)
  | most + 1, token :: rest => do
    let key ← keyPart token
    let (first, last) ← keyPath most rest
    return (key :: first, last)

def scalarValue (token : Token) : Except Fault Value := do
  match token.kind with
  | .quoted form => return .plain token.span (.string (← form.read token))
  | _ => return .plain token.span (← readScalar token)

mutual

def Draft.toValue : Draft → Except Fault Value
  | .scalar token => scalarValue token
  | .array span items => do return .array span (← itemValues items)
  | .table span entries => do return (← entryValues entries []).toValue span

def itemValues : List Draft → Except Fault (List Value)
  | [] => .ok []
  | item :: rest => do
    let value ← item.toValue
    return value :: (← itemValues rest)

def entryValues : List (List Token × Draft) → Entries → Except Fault Entries
  | [], entries => .ok entries
  | (key, draft) :: rest, entries => do
    let (path, last) ← keyPath maxDepth key
    let value ← draft.toValue
    entryValues rest (← entries.assign value last path)

end

structure Progress where
  tables : Entries
  current : List Key

def Progress.step (progress : Progress) : Statement → Except Fault Progress
  | .assignment key draft => do
    let (path, last) ← keyPath maxDepth key
    let value ← draft.toValue
    let tables ← progress.tables.within (Entries.assign value last path) progress.current
    return { progress with tables }
  | .header array key span => do
    let (path, last) ← keyPath maxDepth key
    let opened := if array then Entries.openNext last span else Entries.openTable last span
    return { tables := ← progress.tables.within opened path, current := path ++ [last] }

def withoutMark : List Char → List Char
  | c :: rest => if c.toNat = 0xFEFF then rest else c :: rest
  | [] => []

/-- The table that the text of a document writes. A byte order mark before it does not count. -/
def parse (source : String) : Except Fault Value := do
  let text := withoutMark source.toList
  let statements ← outline (tokens text)
  let progress ← statements.foldlM Progress.step { tables := [], current := [] }
  return progress.tables.toValue { start := text.length, stop := 0 }

end QueryBlocks.Toml
