/-!
# Faults of XML text

What makes a text no XML: markup that does not end, tags that do not match, attributes and
character references that are not well formed. Places are byte offsets in the tag or the
piece of text at hand.
-/

set_option autoImplicit false

namespace QueryBlocks.Xml

inductive AttributeFault where
  | missingEquals (place : Nat)
  | missingValue (place : Nat)
  | unquotedValue (place : Nat)
  | missingQuote (place : Nat) (quote : Char)
  | duplicate (place earlier : Nat)
deriving DecidableEq

def AttributeFault.message : AttributeFault → String
  | .missingEquals place =>
    "position " ++ toString place ++ ": attribute key must be directly followed by `=` or space"
  | .missingValue place =>
    "position " ++ toString place ++ ": `=` must be followed by an attribute value"
  | .unquotedValue place =>
    "position " ++ toString place ++ ": attribute value must be enclosed in `\"` or `'`"
  | .missingQuote place quote =>
    "position " ++ toString place ++ ": missing closing quote `" ++ String.singleton quote ++
      "` in attribute value"
  | .duplicate place earlier =>
    "position " ++ toString place ++
      ": duplicated attribute, previous declaration at position " ++ toString earlier

inductive ReferenceFault where
  | unknownEntity (start stop : Nat) (name : String)
  | unterminated (start stop : Nat)
  | signed
  | noDigits
  | invalidDigit
  | tooLarge
  | noCharacter (code : Nat)
  | forbidden (code : Nat)
deriving DecidableEq

def ReferenceFault.message : ReferenceFault → String
  | .unknownEntity start stop name =>
    "at " ++ toString start ++ ".." ++ toString stop ++ ": unrecognized entity `" ++ name ++ "`"
  | .unterminated start stop =>
    "Error while escaping character at range " ++ toString start ++ ".." ++ toString stop ++
      ": Cannot find ';' after '&'"
  | .signed => "invalid character reference: unexpected number sign"
  | .noDigits => "invalid character reference: cannot parse integer from empty string"
  | .invalidDigit => "invalid character reference: invalid digit found in string"
  | .tooLarge => "invalid character reference: number too large to fit in target type"
  | .noCharacter code =>
    "invalid character reference: `" ++ toString code ++ "` is not a valid codepoint"
  | .forbidden code =>
    "invalid character reference: 0x" ++ String.ofList (Nat.toDigits 16 code) ++
      " character is not permitted in XML"

inductive Fault where
  | unknownMarkup
  | openInstruction
  | openComment
  | openDoctype
  | openCharacterData
  | openTag
  | unnamedDoctype
  | strayEnd (name : String)
  | mismatchedEnd (expected found : String)
  | attribute (cause : AttributeFault)
  | reference (cause : ReferenceFault)
  | unbalancedEnd
  | openElement
deriving DecidableEq

def Fault.message : Fault → String
  | .unknownMarkup => "syntax error: unknown or missed symbol in markup"
  | .openInstruction =>
    "syntax error: processing instruction or xml declaration not closed: `?>` not found " ++
      "before end of input"
  | .openComment => "syntax error: comment not closed: `-->` not found before end of input"
  | .openDoctype => "syntax error: DOCTYPE not closed: `>` not found before end of input"
  | .openCharacterData => "syntax error: CDATA not closed: `]]>` not found before end of input"
  | .openTag => "syntax error: tag not closed: `>` not found before end of input"
  | .unnamedDoctype =>
    "ill-formed document: `<!DOCTYPE>` declaration does not contain a name of a document type"
  | .strayEnd name =>
    "ill-formed document: close tag `</" ++ name ++ ">` does not match any open tag"
  | .mismatchedEnd expected found =>
    "ill-formed document: expected `</" ++ expected ++ ">`, but `</" ++ found ++ ">` was found"
  | .attribute cause => cause.message
  | .reference cause => cause.message
  | .unbalancedEnd => "unbalanced closing tag"
  | .openElement => "unclosed element"

end QueryBlocks.Xml
