import QueryBlocks.Xml.Fault

/-!
# XML events

A text is scanned character by character into tags, pieces of text and markup that carries
nothing. A second pass holds every end tag against the start tag it closes. A fault ends the
events.
-/

set_option autoImplicit false

namespace QueryBlocks.Xml

structure Tag where
  content : List Char
deriving DecidableEq

def isSpace (c : Char) : Bool := c == ' ' || c == '\r' || c == '\n' || c == '\t'

def Tag.name (tag : Tag) : List Char := tag.content.takeWhile fun c => !isSpace c

inductive Event where
  | start (tag : Tag)
  | empty (tag : Tag)
  | close (name : List Char)
  | text (raw : List Char)
  | skipped
deriving DecidableEq

abbrev Events := List (Except Fault Event)

inductive Mode where
  | text (read : List Char)
  | markup
  | bang
  | tag (quote : Option Char) (read : List Char)
  | comment (read : List Char)
  | characterData (read : List Char)
  | doctype (depth : Int) (read : List Char)
  | instruction (read : List Char)

inductive Outcome where
  | goOn (mode : Mode)
  | emit (event : Event)
  | fail (fault : Fault)

/-- The event of a tag: an end tag begins with a slash and an empty one ends with it. Blanks
after the name of an end tag do not count. -/
def tagEvent (content : List Char) : Event :=
  match content with
  | '/' :: name =>
    let trimmed := (name.reverse.dropWhile isSpace).reverse
    .close (if trimmed.isEmpty then name else trimmed)
  | _ =>
    match content.reverse with
    | '/' :: before => .empty { content := before.reverse }
    | _ => .start { content }

def stepTag (quote : Option Char) (read : List Char) (c : Char) : Outcome :=
  match quote with
  | some q => .goOn (.tag (if c = q then none else some q) (c :: read))
  | none =>
    if c = '>' then .emit (tagEvent read.reverse)
    else if c = '"' ∨ c = '\'' then .goOn (.tag (some c) (c :: read))
    else .goOn (.tag none (c :: read))

def startsWith (start cs : List Char) : Bool := start.isPrefixOf cs

def finishComment (read : List Char) : Outcome :=
  if startsWith ['-', '-'] read.reverse then .emit .skipped else .fail .openComment

def finishCharacterData (read : List Char) : Outcome :=
  if startsWith "[CDATA[".toList read.reverse then .emit .skipped else .fail .openCharacterData

def finishDoctype (read : List Char) : Outcome :=
  let content := read.reverse
  if (content.take 7).map Char.toUpper ≠ "DOCTYPE".toList then .fail .openDoctype
  else if (content.drop 7).all isSpace then .fail .unnamedDoctype
  else .emit .skipped

def stepMode (mode : Mode) (c : Char) : Outcome :=
  match mode with
  | .text read => .goOn (.text (c :: read))
  | .markup =>
    if c = '!' then .goOn .bang
    else if c = '?' then .goOn (.instruction ['?'])
    else stepTag none [] c
  | .bang =>
    if c = '[' then .goOn (.characterData ['['])
    else if c = '-' then .goOn (.comment ['-'])
    else if c = 'D' ∨ c = 'd' then .goOn (.doctype 0 [c])
    else .fail .unknownMarkup
  | .tag quote read => stepTag quote read c
  | .comment read =>
    if c = '>' ∧ startsWith ['-', '-'] read ∧ 4 ≤ read.length then finishComment read
    else .goOn (.comment (c :: read))
  | .characterData read =>
    if c = '>' ∧ startsWith [']', ']'] read then finishCharacterData read
    else .goOn (.characterData (c :: read))
  | .doctype depth read =>
    if c = '<' then .goOn (.doctype (depth + 1) (c :: read))
    else if c = '>' then
      if depth = 0 then finishDoctype read else .goOn (.doctype (depth - 1) (c :: read))
    else .goOn (.doctype depth (c :: read))
  | .instruction read =>
    if c = '>' ∧ startsWith ['?'] read then
      if read.length < 2 then .fail .openInstruction else .emit .skipped
    else .goOn (.instruction (c :: read))

def Mode.openFault : Mode → Option Fault
  | .text _ => none
  | .markup => some .openTag
  | .bang => some .unknownMarkup
  | .tag _ _ => some .openTag
  | .comment _ => some .openComment
  | .characterData _ => some .openCharacterData
  | .doctype _ _ => some .openDoctype
  | .instruction _ => some .openInstruction

def textEvents (read : List Char) : Events :=
  if read.isEmpty then [] else [.ok (.text read.reverse)]

def scanFrom : Mode → List Char → Events
  | mode, [] =>
    match mode with
    | .text read => textEvents read
    | other => match other.openFault with
      | some fault => [.error fault]
      | none => []
  | .text read, '<' :: rest => textEvents read ++ scanFrom .markup rest
  | mode, c :: rest =>
    match stepMode mode c with
    | .goOn next => scanFrom next rest
    | .emit event => .ok event :: scanFrom (.text []) rest
    | .fail fault => [.error fault]

/-- The events of a text, without regard to how tags match. A byte order mark in front
does not count. -/
def scan : List Char → Events
  | c :: rest => scanFrom (.text []) (if c.toNat = 0xFEFF then rest else c :: rest)
  | [] => []

def matchTags : List (List Char) → Events → Events
  | _, [] => []
  | _, .error fault :: _ => [.error fault]
  | opened, .ok event :: rest =>
    match event with
    | .start tag => .ok event :: matchTags (tag.name :: opened) rest
    | .close name =>
      match opened with
      | [] => [.error (.strayEnd (String.ofList name))]
      | top :: below =>
        if top = name then .ok event :: matchTags below rest
        else [.error (.mismatchedEnd (String.ofList top) (String.ofList name))]
    | _ => .ok event :: matchTags opened rest

def events (text : String) : Events := matchTags [] (scan text.toList)

end QueryBlocks.Xml
