import QueryBlocks.Number.Notation
import QueryBlocks.Toml.Fault

/-!
# Dates and times

A date, a time of day, or both with an offset. Their normal text has seconds, at most nine places
of them, and a `T` between date and time.
-/

set_option autoImplicit false

namespace QueryBlocks.Toml

inductive MomentToken where
  | digits (text : List Char)
  | sign (c : Char)
deriving DecidableEq

def momentTokens : List Char → List MomentToken
  | [] => []
  | c :: rest =>
    match c.isDigit, momentTokens rest with
    | true, .digits text :: later => .digits (c :: text) :: later
    | true, later => .digits [c] :: later
    | false, later => .sign c.toUpper :: later

namespace Moment

abbrev Reader (α : Type) := List MomentToken → Except Problem (α × List MomentToken)

def readDigits (part : MomentPart) (expected : String) : Reader (List Char)
  | .digits text :: rest => .ok (text, rest)
  | _ => .error (.badMoment part (some expected))

def readSign (part : MomentPart) (c : Char) (expected : String) : Reader Unit
  | .sign d :: rest =>
    if d = c then .ok ((), rest) else .error (.badMoment part (some expected))
  | _ => .error (.badMoment part (some expected))

def checkWidth (part : MomentPart) (width : Nat) (expected : String) (digits : List Char) :
    Except Problem Unit :=
  if digits.length = width then .ok () else .error (.badMoment part (some expected))

def checkRange (part : MomentPart) (low high : Nat) (expected : String) (digits : List Char) :
    Except Problem Unit :=
  let value := Binary64.digitValue digits
  if low ≤ value ∧ value ≤ high then .ok () else .error (.badMoment part (some expected))

def isLeapYear (year : Nat) : Bool := year % 4 == 0 && (year % 100 != 0 || year % 400 == 0)

def daysInMonth (year month : Nat) : Nat :=
  if month = 2 then if isLeapYear year then 29 else 28
  else if month ∈ [4, 6, 9, 11] then 30
  else 31

def readDate (year : List Char) : Reader (List Char) := fun tokens => do
  let (month, tokens) ← readDigits .date "month" tokens
  let (_, tokens) ← readSign .date '-' (quotedName "-" ++ " (MM-DD)") tokens
  let (day, tokens) ← readDigits .date "day" tokens
  checkWidth .date 4 "a four-digit year (YYYY)" year
  checkWidth .date 2 "a two-digit month (MM)" month
  checkWidth .date 2 "a two-digit day (DD)" day
  checkRange .date 1 12 "month between 01 and 12" month
  let days := daysInMonth (Binary64.digitValue year) (Binary64.digitValue month)
  checkRange .date 1 days ("day between 01 and " ++ toString days) day
  return (year ++ '-' :: month ++ '-' :: day, tokens)

def fractionText (digits : List Char) : List Char :=
  match ((digits.take 9).reverse.dropWhile (· = '0')).reverse with
  | [] => []
  | kept => '.' :: kept

def readFraction : Reader (List Char)
  | .sign '.' :: tokens => do
    let (fraction, tokens) ← readDigits .time "nanosecond" tokens
    return (fractionText fraction, tokens)
  | tokens => .ok ([], tokens)

def readSeconds : Reader (List Char × List Char)
  | .sign ':' :: tokens => do
    let (second, tokens) ← readDigits .time "second" tokens
    let (fraction, tokens) ← readFraction tokens
    return ((second, fraction), tokens)
  | tokens => .ok ((['0', '0'], []), tokens)

def readTime : Reader (List Char) := fun tokens => do
  let (hour, tokens) ← readDigits .time "hour" tokens
  let (_, tokens) ← readSign .time ':' (quotedName ":" ++ " (HH:MM)") tokens
  let (minute, tokens) ← readDigits .time "minute" tokens
  let ((second, fraction), tokens) ← readSeconds tokens
  checkWidth .time 2 "a two-digit hour (HH)" hour
  checkWidth .time 2 "a two-digit minute (MM)" minute
  checkWidth .time 2 "a two-digit second (SS)" second
  checkRange .time 0 23 "hour between 00 and 23" hour
  checkRange .time 0 59 "minute between 00 and 59" minute
  checkRange .time 0 60 "second between 00 and 60" second
  return (hour ++ ':' :: minute ++ ':' :: second ++ fraction, tokens)

def readOffsetTime (sign : Char) : Reader (List Char) := fun tokens => do
  let (hour, tokens) ← readDigits .offset "hour" tokens
  let (_, tokens) ← readSign .offset ':' (quotedName ":" ++ " (HH:MM)") tokens
  let (minute, tokens) ← readDigits .offset "minute" tokens
  checkWidth .offset 2 "a two-digit hour (HH)" hour
  checkWidth .offset 2 "a two-digit minute (MM)" minute
  checkRange .offset 0 23 "hours between 00 and 23" hour
  checkRange .offset 0 59 "minutes between 00 and 59" minute
  let shown := if (hour ++ minute).all (· == '0') then '+' else sign
  return (shown :: hour ++ ':' :: minute, tokens)

def readOffset : Reader (List Char)
  | [] => .ok ([], [])
  | .sign 'Z' :: tokens => .ok (['Z'], tokens)
  | .sign '+' :: tokens => readOffsetTime '+' tokens
  | .sign '-' :: tokens => readOffsetTime '-' tokens
  | _ => .error (.badMoment .offset
      (some (", ".intercalate [quotedName "Z", "+OFFSET", "-OFFSET"])))

def readDayTime : Reader (List Char)
  | [] => .ok ([], [])
  | .sign 'T' :: tokens | .sign ' ' :: tokens => do
    let (time, tokens) ← readTime tokens
    let (offset, tokens) ← readOffset tokens
    return ('T' :: time ++ offset, tokens)
  | _ => .error (.badMoment .divider (some (quotedName "T" ++ " between date and time")))

def readParts : Reader (List Char)
  | .digits year :: .sign '-' :: tokens => do
    let (date, tokens) ← readDate year tokens
    let (time, tokens) ← readDayTime tokens
    return (date ++ time, tokens)
  | .digits hour :: .sign ':' :: tokens => readTime (.digits hour :: .sign ':' :: tokens)
  | .digits _ :: _ => .error (.badMoment .whole
      (some (quotedName "-" ++ " (YYYY-MM) or " ++ quotedName ":" ++ " (HH:MM)")))
  | _ => .error (.badMoment .whole (some "year or hour"))

def read (text : List Char) : Except Problem (List Char) := do
  match ← readParts (momentTokens text) with
  | (found, []) => return found
  | (_, _ :: _) => .error (.badMoment .whole none)

end Moment

end QueryBlocks.Toml
