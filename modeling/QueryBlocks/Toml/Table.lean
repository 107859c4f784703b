import QueryBlocks.Data.Catalog
import QueryBlocks.Toml.Value

/-!
# The tables of a TOML document

Tables grow while a document is read. Where a table came from decides what may still be
added to it: a table named by a header is complete once the next header comes, one that was
only passed through may still get a header, and one made by a dotted key grows by dotted
keys. A table stands where its header does, or else where the key that made it does.
-/

set_option autoImplicit false

namespace QueryBlocks.Toml

inductive Origin where
  | header
  | passed
  | dotted
deriving DecidableEq

inductive Node where
  | closed (value : Value)
  | table (origin : Origin) (span : Span) (entries : List (String × Node))
  | tables (span : Span) (earlier : List Value) (lastSpan : Span) (last : List (String × Node))

abbrev Entries := List (String × Node)

mutual

def Node.toValue : Node → Value
  | .closed value => value
  | .table _ span entries => .table span (entriesToValues entries)
  | .tables span earlier lastSpan last =>
    .array span (earlier ++ [.table lastSpan (entriesToValues last)])

def entriesToValues : List (String × Node) → List (String × Value)
  | [] => []
  | (key, node) :: rest => (key, node.toValue) :: entriesToValues rest

end

namespace Entries

def toValue (span : Span) (entries : Entries) : Value := .table span (entriesToValues entries)

def put (key : String) (node : Node) : Entries → Entries
  | [] => [(key, node)]
  | (k, old) :: rest => if k = key then (key, node) :: rest else (k, old) :: put key node rest

def duplicate (key : Key) : Fault := { problem := .duplicateKey, span := key.span }

def notTable (key : Key) (value : Value) : Fault :=
  { problem := .notTable value.typeName, span := key.span }

def within (change : Entries → Except Fault Entries) :
    List Key → Entries → Except Fault Entries
  | [], entries => change entries
  | key :: rest, entries =>
    match lookup key.name entries with
    | none => do
      return entries.put key.name (.table .passed key.span (← within change rest []))
    | some (.table origin span inner) => do
      return entries.put key.name (.table origin span (← within change rest inner))
    | some (.tables span earlier lastSpan last) => do
      return entries.put key.name (.tables span earlier lastSpan (← within change rest last))
    | some (.closed value) => .error (notTable key value)

/-- Gives the key at the end of a dotted path a value. A dotted key goes through tables that have
no header and through the last table of an array, and ends in a table of dotted keys. -/
def assign (value : Value) (last : Key) : List Key → Entries → Except Fault Entries
  | [], entries =>
    if (lookup last.name entries).isSome then .error (duplicate last)
    else .ok (entries.put last.name (.closed value))
  | key :: rest, entries =>
    match lookup key.name entries with
    | none => do
      return entries.put key.name (.table .dotted key.span (← assign value last rest []))
    | some (.table origin span inner) =>
      if origin = .header then .error (duplicate key)
      else if rest.isEmpty && origin ≠ .dotted then .error (duplicate last)
      else do return entries.put key.name (.table origin span (← assign value last rest inner))
    | some (.tables span earlier lastSpan table) =>
      if rest.isEmpty then .error (duplicate last)
      else do
        return entries.put key.name
          (.tables span earlier lastSpan (← assign value last rest table))
    | some (.closed old) => .error (notTable key old)

def openTable (key : Key) (header : Span) (entries : Entries) : Except Fault Entries :=
  match lookup key.name entries with
  | none => .ok (entries.put key.name (.table .header header []))
  | some (.table .passed _ inner) => .ok (entries.put key.name (.table .header header inner))
  | some _ => .error (duplicate key)

def openNext (key : Key) (header : Span) (entries : Entries) : Except Fault Entries :=
  match lookup key.name entries with
  | none => .ok (entries.put key.name (.tables header [] header []))
  | some (.tables span earlier lastSpan last) =>
    .ok (entries.put key.name
      (.tables span (earlier ++ [toValue lastSpan last]) header []))
  | some _ => .error (duplicate key)

end Entries

end QueryBlocks.Toml
