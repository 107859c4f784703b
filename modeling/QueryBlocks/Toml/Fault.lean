import QueryBlocks.Toml.Span

/-!
# What is wrong with a document

Each problem says what was found and, where that helps, what was expected instead.
-/

set_option autoImplicit false

namespace QueryBlocks.Toml

structure Form where
  quote : Char
  lines : Bool
deriving DecidableEq

namespace Form

def escapes (form : Form) : Bool := form.quote == '"'

def quotes (form : Form) : List Char := List.replicate (if form.lines then 3 else 1) form.quote

def name (form : Form) : String :=
  (if form.lines then "multi-line " else "") ++
    (if form.escapes then "basic string" else "literal string")

end Form

inductive Want where
  | key
  | equals
  | value
  | comma
deriving DecidableEq

inductive EntryProblem where
  | extraComma
  | extraEquals
  | noKey
  | noEquals
  | noComma
  | badEntry

inductive FloatPart where
  | mantissa
  | fraction
  | exponent

inductive MomentPart where
  | whole
  | date
  | divider
  | time
  | offset

inductive Problem where
  | bareReturn
  | badComment
  | emptyKey
  | badKey
  | keyOfLines (form : Form)
  | longKey
  | duplicateKey
  | notTable (type : String)
  | noKey
  | noEquals
  | noHeaderStart
  | noHeaderEnd (array : Bool) (closing : String)
  | afterStatement
  | extraEquals
  | noArrayStart
  | noTableStart
  | openArray
  | extraComma
  | equalsInArray
  | badItem (wanted : Want)
  | noItemComma
  | openTable
  | inTable (problem : EntryProblem) (wanted : Want)
  | tooDeep
  | openText (form : Form)
  | badText (form : Form)
  | badEscape
  | shortCode
  | badCode
  | noBreak
  | unquoted
  | badWord (kind word : String)
  | extraSign
  | upperBase (mark : String)
  | signedBase
  | decimalBase
  | signInBase
  | badDigit (kind : String)
  | noDigits (part : FloatPart)
  | leadingZero
  | afterFloat
  | looseUnderscore
  | largeInteger
  | largeFloat
  | badMoment (part : MomentPart) (expected : Option String)

def quotedName (text : String) : String := "`" ++ text ++ "`"

def Want.name : Want → String
  | .key => "key"
  | .equals => quotedName "="
  | .value => "value"
  | .comma => quotedName ","

def EntryProblem.message : EntryProblem → String
  | .extraComma => "extra comma in inline table"
  | .extraEquals => "extra assignment between key-value pairs"
  | .noKey => "missing key for inline table element"
  | .noEquals => "missing assignment between key-value pairs"
  | .noComma => "missing comma between key-value pairs"
  | .badEntry => "invalid inline table element"

def FloatPart.name : FloatPart → String
  | .mantissa => "mantissa"
  | .fraction => "fraction"
  | .exponent => "exponent"

def MomentPart.name : MomentPart → String
  | .whole => "datetime"
  | .date => "date"
  | .divider => "date-time"
  | .time => "time"
  | .offset => "offset"

namespace Problem

def bareChars : List String := ["letters", "numbers", quotedName "-", quotedName "_"]

def textChars (form : Form) : List String :=
  match form.escapes, form.lines with
  | true, true => [quotedName "\\", "characters"]
  | true, false => ["non-double-quote visible characters", quotedName "\\"]
  | false, true => ["non-single-quote characters"]
  | false, false => ["non-single-quote visible characters"]

def parts : Problem → String × List String
  | .bareReturn => ("carriage return must be followed by newline", ["newline"])
  | .badComment => ("invalid comment character", ["printable characters"])
  | .emptyKey => ("unquoted keys cannot be empty", bareChars)
  | .badKey => ("invalid unquoted key", bareChars)
  | .keyOfLines form => ("keys cannot be " ++ form.name ++ "s", ["basic string", "literal string"])
  | .longKey => ("recursion limit", [])
  | .duplicateKey => ("duplicate key", [])
  | .notTable type => ("cannot extend value of type " ++ type ++ " with a dotted key", [])
  | .noKey => ("invalid key", ["key"])
  | .noEquals => ("key with no value", [quotedName "="])
  | .noHeaderStart => ("missing table open", [quotedName "["])
  | .noHeaderEnd array closing =>
    (if array then "unclosed array table" else "unclosed table", [quotedName closing])
  | .afterStatement => ("unexpected key or value", ["newline", quotedName "#"])
  | .extraEquals => ("extra " ++ quotedName "=", ["nothing"])
  | .noArrayStart => ("missing array opening", [quotedName "["])
  | .noTableStart => ("missing inline table opening", [quotedName "\x7b"])
  | .openArray => ("unclosed array", [quotedName "]"])
  | .extraComma => ("extra comma in array", ["value"])
  | .equalsInArray => ("unexpected " ++ quotedName "=" ++ " in array", ["value", quotedName "]"])
  | .badItem wanted => ("invalid array element", [wanted.name])
  | .noItemComma => ("missing comma between array elements", [quotedName ","])
  | .openTable => ("unclosed inline table", [quotedName "\x7d"])
  | .inTable problem wanted => (problem.message, [wanted.name])
  | .tooDeep => ("cannot recurse further; max recursion depth met", [])
  | .openText form => ("invalid " ++ form.name, [quotedName (String.singleton form.quote)])
  | .badText form => ("invalid " ++ form.name, textChars form)
  | .badEscape =>
    ("missing escaped value",
      ["b", "e", "f", "n", "r", "\\", "\"", "x", "u", "U"].map quotedName)
  | .shortCode => ("too few unicode value digits", ["unicode hexadecimal value"])
  | .badCode => ("invalid value", ["unicode hexadecimal value"])
  | .noBreak => ("invalid multi-line basic string", ["newline"])
  | .unquoted => ("string values must be quoted", ["literal string"])
  | .badWord kind word => ("invalid " ++ kind, [quotedName word])
  | .extraSign => ("redundant numeric sign", ["nothing"])
  | .upperBase mark => ("radix must be lowercase", [quotedName mark])
  | .signedBase => ("integers with a radix cannot be signed", ["nothing"])
  | .decimalBase => ("redundant integer number prefix", ["nothing"])
  | .signInBase => ("unexpected sign", ["nothing"])
  | .badDigit kind => ("invalid " ++ kind ++ " number", [])
  | .noDigits part => ("invalid " ++ part.name, ["digits"])
  | .leadingZero => ("unexpected leading zero", ["nothing"])
  | .afterFloat => ("invalid floating-point number", ["nothing"])
  | .looseUnderscore => (quotedName "_" ++ " may only go between digits", ["nothing"])
  | .largeInteger => ("integer number overflowed", [])
  | .largeFloat => ("floating-point number overflowed", [])
  | .badMoment part expected => ("invalid " ++ part.name, expected.toList)

def message (problem : Problem) : String :=
  match problem.parts with
  | (found, []) => found
  | (found, expected) => found ++ ", expected " ++ ", ".intercalate expected

end Problem

structure Fault where
  problem : Problem
  span : Span

namespace Fault

def before (problem : Problem) (left : Nat) : Fault := { problem, span := .before left }

def between (problem : Problem) (after : Nat) (start stop : List Char) : Fault :=
  { problem, span := .between after start stop }

end Fault

end QueryBlocks.Toml
