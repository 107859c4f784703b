import QueryBlocks.Xml.Escaped
import QueryBlocks.Xml.Event

/-!
# Attributes

A tag's attributes are read from left to right: a key, an equals sign and a quoted value,
with blanks allowed around each. No key may come twice.
-/

set_option autoImplicit false

namespace QueryBlocks.Xml

abbrev Attributes := List (String × String)

inductive Reading where
  | between
  | key (read : List Char)
  | afterKey (key : String)
  | beforeValue (key : String)
  | value (key : String) (quote : Char) (read : List Char)

abbrev Found := List (Nat × String × String)

def attributeFault {α : Type} (cause : AttributeFault) : Except Fault α :=
  .error (.attribute cause)

def checkKey (found : Found) (start : Nat) (key : String) : Except Fault Unit :=
  match found.find? fun entry => entry.2.1 == key with
  | some (earlier, _) => attributeFault (.duplicate start earlier)
  | none => .ok ()

def unescapeValue (raw : List Char) : Except Fault String :=
  match unescape raw with
  | .ok value => .ok (String.ofList value)
  | .error cause => .error (.reference cause)

/-- Reads the attributes that follow, at a byte offset in the tag. The attribute at hand
starts at `start`. -/
def readFrom (place : Nat) (start : Nat) (found : Found) :
    Reading → List Char → Except Fault Attributes
  | reading, [] =>
    match reading with
    | .between => .ok (found.reverse.map Prod.snd)
    | .key _ | .afterKey _ => attributeFault (.missingEquals place)
    | .beforeValue _ => attributeFault (.missingValue place)
    | .value _ quote _ => attributeFault (.missingQuote place quote)
  | reading, c :: rest =>
    let next := place + c.utf8Size
    match reading with
    | .between =>
      if isSpace c then readFrom next start found .between rest
      else readFrom next place found (.key [c]) rest
    | .key read =>
      if c = '=' then do
        let key := String.ofList read.reverse
        checkKey found start key
        readFrom next start found (.beforeValue key) rest
      else if isSpace c then readFrom next start found (.afterKey (String.ofList read.reverse)) rest
      else readFrom next start found (.key (c :: read)) rest
    | .afterKey key =>
      if isSpace c then readFrom next start found (.afterKey key) rest
      else if c = '=' then do
        checkKey found start key
        readFrom next start found (.beforeValue key) rest
      else attributeFault (.missingEquals place)
    | .beforeValue key =>
      if isSpace c then readFrom next start found (.beforeValue key) rest
      else if c = '"' ∨ c = '\'' then readFrom next start found (.value key c []) rest
      else attributeFault (.unquotedValue place)
    | .value key quote read =>
      if c = quote then do
        let value ← unescapeValue read.reverse
        readFrom next start ((start, key, value) :: found) .between rest
      else readFrom next start found (.value key quote (c :: read)) rest

def Tag.attributes (tag : Tag) : Except Fault Attributes :=
  let name := tag.name
  readFrom (Text.byteLength name) 0 [] .between (tag.content.drop name.length)

end QueryBlocks.Xml
