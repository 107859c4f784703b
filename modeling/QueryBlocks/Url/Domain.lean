import QueryBlocks.Text.Composition
import QueryBlocks.Text.Direction
import QueryBlocks.Text.Joining
import QueryBlocks.Text.Percent
import QueryBlocks.Text.Printable
import QueryBlocks.Url.Mapping
import QueryBlocks.Url.Punycode

/-!
# Domain names

A domain name in the form in which it is looked up: percent escapes decoded, every character
in its plain form, letters and marks composed, and labels beyond ASCII in Punycode.
-/

set_option autoImplicit false

namespace QueryBlocks.Domain

def isFullStop (c : Char) : Bool := [0x3002, 0xFF0E, 0xFF61].contains c.toNat

/-- The plain form of a character. Only a full stop divides labels: a character whose plain
form holds a dot beside other signs has no place in a name. -/
def plain (c : Char) : Option (List Char) :=
  if c.toNat < 0x80 then some [c.toLower]
  else if isFullStop c then some ['.']
  else match mapped? c with
    | none => some [c]
    | some target => if target.contains '.' then none else some target

def isForbidden (c : Char) : Bool :=
  c.toNat ≤ 0x20 || c.toNat == 0x7F || c ∈
    ['#', '/', ':', '<', '>', '?', '@', '[', '\\', ']', '^', '|', '%']

def isPlaceholder (c : Char) : Bool :=
  (0x2FF0 ≤ c.toNat && c.toNat ≤ 0x2FFF) || [0x31EF, 0xFFFC, 0xFFFD].contains c.toNat

def isAllowed (c : Char) : Bool :=
  if c.toNat < 0x80 then !isForbidden c && !c.isUpper
  else Text.isJoiner c || (Text.isPrintable c && !isPlaceholder c && (mapped? c).isNone)

/-- The joiners stand after a virama; the one that parts letters may also stand between two
letters that would join. `before` holds the characters before the place, the last first. -/
def joinersFit : List Char → List Char → Bool
  | _, [] => true
  | before, c :: rest =>
    let afterVirama := before.head?.any Text.isVirama
    let between := (before.dropWhile Text.isTransparent).head?.any Text.joinsNext &&
      (rest.dropWhile Text.isTransparent).head?.any Text.joinsPrevious
    (!Text.isJoiner c || afterVirama || (c.toNat == 0x200C && between)) &&
      joinersFit (c :: before) rest

def isInternational (label : List Char) : Bool :=
  label.any (128 ≤ ·.toNat) && label.all isAllowed && !(label.head?.any Text.isMark) &&
    joinersFit [] label && Text.composed label == label

def readLabel (label : List Char) : Option (List Char) :=
  match label with
  | 'x' :: 'n' :: '-' :: '-' :: digits => do
    let decoded ← Punycode.decode digits
    if isInternational decoded && Punycode.encode decoded == digits then some decoded else none
  | _ =>
    if label.all (·.toNat < 128) then if label.any isForbidden then none else some label
    else if isInternational label then some label
    else none

def labelText (label : List Char) : List Char :=
  if label.all (·.toNat < 128) then label else "xn--".toList ++ Punycode.encode label

def runsLeft (label : List Char) : Bool :=
  label.any fun c => 0x590 ≤ c.toNat && Text.direction c ∈ [.rightToLeft, .arabicNumber]

/-- In a name with letters from right to left each label keeps to one direction: it starts
with a letter and holds nothing of the other direction, ends in a letter or digit, and does
not mix the two kinds of digits. -/
def keepsDirection (label : List Char) : Bool :=
  let directions := label.map Text.direction
  let ending := (directions.reverse.dropWhile (· = .attached)).head?
  match directions.head? with
  | none => true
  | some .leftToRight =>
    directions.all (· ∈ [.leftToRight, .number, .neutral, .attached]) &&
      ending.any (· ∈ [.leftToRight, .number])
  | some .rightToLeft =>
    directions.all (· ≠ .leftToRight) &&
      ending.any (· ∈ [.rightToLeft, .number, .arabicNumber]) &&
      !(directions.contains .number && directions.contains .arabicNumber)
  | some _ => false

def labelsText (text : List Char) : Option (List Char) := do
  let labels ← (text.splitOn '.').mapM readLabel
  if labels.any runsLeft && !labels.all keepsDirection then none
  else some (['.'].intercalate (labels.map labelText))

def toAscii (host : List Char) : Option (List Char) := do
  let text ← Text.ofBytes? (Text.percentDecode host)
  let parts ← text.toList.mapM plain
  labelsText (Text.composed parts.flatten)

end QueryBlocks.Domain
