import QueryBlocks.Text.Blank
import QueryBlocks.Xml.Attribute

/-!
# Elements

A tree of elements is written to text and built from events. Building keeps a stack of open
elements; blank text counts only inside a `field`, and of several roots the first is taken.
-/

set_option autoImplicit false

namespace QueryBlocks.Xml

inductive Element where
  | mk (name : String) (attributes : Attributes) (children : List Element) (text : String)

namespace Element

def name : Element → String
  | .mk name _ _ _ => name

def attributes : Element → Attributes
  | .mk _ attributes _ _ => attributes

def children : Element → List Element
  | .mk _ _ children _ => children

def text : Element → String
  | .mk _ _ _ text => text

def attribute? (element : Element) (key : String) : Option String :=
  (element.attributes.find? fun entry => entry.1 == key).map Prod.snd

def addChild : Element → Element → Element
  | .mk name attributes children text, child => .mk name attributes (children ++ [child]) text

def addText : Element → String → Element
  | .mk name attributes children text, more => .mk name attributes children (text ++ more)

def writeAttributes : Attributes → List Char
  | [] => []
  | (key, value) :: rest =>
    ' ' :: (key.toList ++ '=' :: '"' :: escape value.toList ++ '"' :: writeAttributes rest)

mutual

def write : Element → List Char
  | .mk name attributes children text =>
    if children.isEmpty && text.isEmpty then
      '<' :: (name.toList ++ writeAttributes attributes ++ ['/', '>'])
    else
      '<' :: (name.toList ++ writeAttributes attributes ++ '>' :: escape text.toList ++
        writeAll children ++ '<' :: '/' :: name.toList ++ ['>'])

def writeAll : List Element → List Char
  | [] => []
  | child :: rest => write child ++ writeAll rest

end

def toText (element : Element) : String := String.ofList element.write

end Element

def valueElement : String := "field"

def openElement (tag : Tag) : Except Fault Element := do
  let attributes ← tag.attributes
  return .mk (String.ofList tag.name) attributes [] ""

def place (element : Element) : List Element → Option Element → List Element × Option Element
  | [], root => ([], root <|> some element)
  | parent :: below, root => (parent.addChild element :: below, root)

def placeText (raw : List Char) (element : Element) : Except Fault Element := do
  let piece ← unescapeValue raw
  return if element.name = valueElement ∨ ¬Text.allBlank piece then element.addText piece
    else element

/-- Builds the first root from events, with the elements that are open, the innermost first.
Nothing comes of events without an element. -/
def build : List Element → Option Element → Events → Except Fault (Option Element)
  | opened, root, [] => if opened.isEmpty then .ok root else .error .openElement
  | _, _, .error fault :: _ => .error fault
  | opened, root, .ok event :: rest =>
    match event with
    | .start tag => do build ((← openElement tag) :: opened) root rest
    | .empty tag => do
      let (opened, root) := place (← openElement tag) opened root
      build opened root rest
    | .close _ =>
      match opened with
      | [] => .error .unbalancedEnd
      | element :: below =>
        let (opened, root) := place element below root
        build opened root rest
    | .text raw =>
      match opened with
      | [] => build [] root rest
      | element :: below => do build ((← placeText raw element) :: below) root rest
    | .skipped => build opened root rest

def parse (text : String) : Except Fault (Option Element) := build [] none (events text)

end QueryBlocks.Xml
