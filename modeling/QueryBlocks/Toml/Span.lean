import QueryBlocks.Text.Bytes

/-!
# Places in a document

Readers work on what is left of a document, so a place is told by how many characters are left
there. A report shows the line of a place with the stretch marked under it.
-/

set_option autoImplicit false

namespace QueryBlocks.Toml

/-- A stretch of a document, by the number of characters left at its start and at its end. -/
structure Span where
  start : Nat
  stop : Nat
deriving DecidableEq

namespace Span

def before (left : Nat) : Span := { start := left, stop := left }

def between (after : Nat) (start stop : List Char) : Span :=
  { start := after + start.length, stop := after + stop.length }

end Span

def lastLine (text : List Char) : List Char := (text.reverse.takeWhile (· ≠ '\n')).reverse

structure Place where
  line : Nat
  column : Nat
  content : List Char

/-- The place before the last `left` characters. The end of a document belongs to the line of its
last character. Columns count characters, but bytes before a character of several bytes. -/
def Place.of (document : List Char) (left : Nat) : Place :=
  let front := document.take (document.length - left)
  let rest := document.drop (document.length - left)
  let before := if rest.isEmpty then front.dropLast else front
  let lead := lastLine before
  { line := before.count '\n'
    column :=
      match rest with
      | [] => if front.isEmpty then 0 else lead.length + 1
      | c :: _ => if c.utf8Size = 1 then lead.length else Text.byteLength lead
    content := lead ++ (document.drop before.length).takeWhile (· ≠ '\n') }

def blanks (count : Nat) : String := String.ofList (List.replicate count ' ')

def Span.marks (span : Span) (document : List Char) (place : Place) : Nat :=
  let stretch := (document.drop (document.length - span.start)).take (span.start - span.stop)
  max 1 (min (Text.byteLength stretch) (Text.byteLength place.content - place.column))

def Span.report (span : Span) (source message : String) : String :=
  let document := source.toList
  let place := Place.of document span.start
  let number := toString (place.line + 1)
  let margin := blanks (number.length + 1) ++ "|"
  "TOML parse error at line " ++ number ++ ", column " ++ toString (place.column + 1) ++ "\n" ++
    margin ++ "\n" ++
    number ++ " | " ++ String.ofList place.content ++ "\n" ++
    margin ++ blanks (place.column + 1) ++
      String.ofList (List.replicate (span.marks document place) '^') ++ "\n" ++
    message ++ "\n"

end QueryBlocks.Toml
