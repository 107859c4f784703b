import QueryBlocks.Text.Joining
import QueryBlocks.Text.Pictograph

/-!
# Width on a terminal

How many columns a line takes. Mostly that is the sum over its characters, but some
characters join into one shape: pictures by selectors, skin tones and joiners, letters of
several scripts by ligatures. A line is read from its end, so that what follows a character
is known when its width is asked for.
-/

set_option autoImplicit false

namespace QueryBlocks.Text

inductive Merging where
  | lamed
  | ya
  | tifinagh
  | orkhonI
deriving DecidableEq

/-- What the text after a place makes of the character at it. -/
inductive Sequel where
  | plain
  | lineEnd
  | alef
  | merging (letter : Merging) (joined : Bool)
  | joinedYaVowel
  | tifinaghJoiner
  | toneLetter
  | stackedLetter
  | vowelE
  | vowelAi
  | skinTone
  | flagLetter (several : Bool)
  | picture
  | joinedPicture (keycap : Bool)
  | joinedFlagLetter (even : Option Bool)
  | tags (letters digits : Nat)
deriving DecidableEq

inductive Selector where
  | picture
  | text
  | fullwidth
deriving DecidableEq

structure Context where
  sequel : Sequel
  selector : Option Selector

namespace Sequel

def isLigature : Sequel → Bool
  | .merging .. | .joinedYaVowel | .tifinaghJoiner | .toneLetter | .stackedLetter => true
  | _ => false

def atSelector (sequel : Sequel) (selector : Selector) : Sequel :=
  match sequel with
  | .joinedPicture _ => if selector = .picture then sequel else .plain
  | _ => if sequel.isLigature || sequel = .alef then sequel else .plain

def withoutSelector (sequel : Sequel) : Sequel :=
  if sequel.isLigature || sequel = .alef then sequel else .plain

end Sequel

def isLam (c : Char) : Bool :=
  [0x644, 0x6B5, 0x6B6, 0x6B7, 0x6B8, 0x76A, 0x8A6, 0x8C7].contains c.toNat

def isAlef (c : Char) : Bool :=
  let n := c.toNat
  [0x622, 0x623, 0x625, 0x627, 0x671, 0x672, 0x673, 0x675, 0x773, 0x774].contains n ||
    (0x870 ≤ n && n ≤ 0x882)

def isTifinaghConsonant (c : Char) : Bool :=
  (0x2D31 ≤ c.toNat && c.toNat ≤ 0x2D65) || c.toNat == 0x2D6F

def isStackedLetter (c : Char) : Bool :=
  inRanges [(0x1780, 0x1782), (0x1784, 0x1787), (0x1789, 0x178C), (0x178E, 0x1793),
    (0x1795, 0x1798), (0x179B, 0x179D), (0x17A0, 0x17A0), (0x17A2, 0x17A2), (0x17A7, 0x17A7),
    (0x17AB, 0x17AC), (0x17AF, 0x17AF)] c

def isLigatureMark (c : Char) : Bool :=
  inRanges [(0x34F, 0x34F), (0x17B4, 0x17B5), (0x180B, 0x180D), (0x180F, 0x180F),
    (0x200D, 0x200D), (0xFE00, 0xFE0F), (0xE0100, 0xE01EF)] c

def isQuotationMark (c : Char) : Bool := [0x2018, 0x2019, 0x201C, 0x201D].contains c.toNat

def alone (c : Char) : Int × Sequel :=
  let n := c.toNat
  let sequel : Sequel :=
    if n = 0x5DC then .merging .lamed false
    else if isAlef c then .alef
    else if isStackedLetter c then .stackedLetter
    else if n = 0x1A10 then .merging .ya false
    else if isTifinaghConsonant c then .merging .tifinagh false
    else if n = 0xA4FC ∨ n = 0xA4FD then .toneLetter
    else if n = 0x10C03 then .merging .orkhonI false
    else if n = 0x16D67 then .vowelE
    else if n = 0x16D68 then .vowelAi
    else if isFlagLetter c then .flagLetter false
    else if isSkinTone c then .skinTone
    else if isPicture c then .picture
    else .plain
  (charWidth c, sequel)

def ligature? (sequel : Sequel) (c : Char) : Option (Int × Sequel) :=
  let n := c.toNat
  match sequel with
  | .alef =>
    if isLam c then some (0, .plain)
    else if isZeroWidth c && isTransparent c then some (0, .alef)
    else none
  | .merging .lamed true => if n = 0x5D0 then some (0, .plain) else none
  | .merging .ya true => if n = 0x1A17 then some (0, .joinedYaVowel) else none
  | .joinedYaVowel => if n = 0x1A15 then some (0, .plain) else none
  | .merging .tifinagh joined =>
    if n = 0x2D7F then some (1, .tifinaghJoiner)
    else if joined && isTifinaghConsonant c then some (0, .plain)
    else none
  | .tifinaghJoiner => if isTifinaghConsonant c then some (-1, .plain) else none
  | .toneLetter => if 0xA4F8 ≤ n ∧ n ≤ 0xA4FB then some (0, .plain) else none
  | .merging .orkhonI true => if n = 0x10C32 then some (0, .plain) else none
  | .stackedLetter => if n = 0x17D2 then some (-1, .plain) else none
  | .vowelE =>
    if n = 0x16D63 ∨ n = 0x16D69 then some (0, .plain)
    else if n = 0x16D67 then some (0, .vowelAi)
    else if n = 0x16D68 then some (1, .vowelE)
    else none
  | .vowelAi => if n = 0x16D63 then some (0, .plain) else none
  | _ => none

/-- A character that forms a picture with the text after it. Tags after a flag name a region
by up to six letters or three digits. -/
def picture? (sequel : Sequel) (c : Char) : Option (Int × Sequel) :=
  let n := c.toNat
  let joiner := n = 0x200D
  match sequel with
  | .skinTone =>
    if isToned c then some (0, .picture)
    else if joiner then some (0, .joinedPicture false)
    else none
  | .flagLetter several =>
    if isFlagLetter c then some (1, .flagLetter true)
    else if several && joiner then some (0, .joinedPicture false)
    else none
  | .picture => if joiner then some (0, .joinedPicture false) else none
  | .joinedFlagLetter even =>
    if isFlagLetter c then
      if even = some true then some (3, .joinedFlagLetter (some false))
      else some (-1, .joinedFlagLetter (some true))
    else if even.isSome && joiner then some (0, .joinedPicture false)
    else none
  | .joinedPicture false =>
    if n = 0x20E3 then some (0, .joinedPicture true)
    else if isFlagLetter c then some (1, .joinedFlagLetter none)
    else if isSkinTone c then some (0, .skinTone)
    else if n = 0xE007F then some (0, .tags 0 0)
    else if isPicture c then some (0, .picture)
    else none
  | .tags letters digits =>
    if 0xE0061 ≤ n ∧ n ≤ 0xE007A ∧ digits = 0 ∧ letters < 6 then some (0, .tags (letters + 1) 0)
    else if 0xE0030 ≤ n ∧ n ≤ 0xE0039 ∧ (digits = 0 ∧ letters ≤ 4 ∨ digits = 1 ∨ digits = 2) then
      some (0, .tags letters (digits + 1))
    else if n = 0x1F3F4 ∧ (digits = 0 ∧ 3 ≤ letters ∨ digits = 3) then some (0, .picture)
    else none
  | _ => none

def widthBefore (sequel : Sequel) (c : Char) : Int × Sequel :=
  let n := c.toNat
  if n ≤ 0xA0 then
    if n = 0x0A then (1, .lineEnd)
    else if n = 0x0D ∧ sequel = .lineEnd then (0, .plain)
    else (1, .plain)
  else if sequel.isLigature ∧ n = 0x200D then
    match sequel with
    | .merging letter _ => (0, .merging letter true)
    | other => (0, other)
  else if sequel.isLigature ∧ isLigatureMark c then (0, sequel)
  else (ligature? sequel c <|> picture? sequel c).getD (alone c)

def selector? (c : Char) : Option Selector :=
  if c.toNat = 0xFE0F then some .picture
  else if c.toNat = 0xFE0E then some .text
  else if c.toNat = 0xFE01 then some .fullwidth
  else none

def selected? (context : Context) (c : Char) : Option (Int × Sequel) :=
  match context.selector with
  | some .picture =>
    if isSelectable c then
      match context.sequel with
      | .joinedPicture _ => some (0, .picture)
      | _ => some (2, .picture)
    else none
  | some .text => if hasNarrowForm c then some (1, .plain) else none
  | some .fullwidth => if isQuotationMark c then some (2, .plain) else none
  | none => none

def stepWidth (c : Char) (state : Int × Context) : Int × Context :=
  let (width, context) := state
  match selected? context c with
  | some (own, sequel) => (width + own, { sequel, selector := none })
  | none =>
    let sequel := if context.selector.isSome then context.sequel.withoutSelector
      else context.sequel
    match selector? c with
    | some selector =>
      (width, { sequel := sequel.atSelector selector, selector := some selector })
    | none =>
      let (own, sequel) := widthBefore sequel c
      (width + own, { sequel, selector := none })

def width (line : List Char) : Nat :=
  (line.foldr stepWidth (0, { sequel := .plain, selector := none })).1.toNat

end QueryBlocks.Text
