import Mathlib.Tactic.SplitIfs
import QueryBlocks.Plan.Literal
import QueryBlocks.Proofs.Text.Scanner

/-!
# Expressions of the host

The host reads an expression in two steps: characters become tokens, and tokens become one
datum, built on a stack of the lists that are still open. Reading the tokens of a datum gives
the datum back.
-/

set_option autoImplicit false

namespace QueryBlocks.Host

inductive Token where
  | opening
  | closing
  | quoting
  | string (text : String)
  | atom (name : String)
deriving DecidableEq

inductive Datum where
  | string (text : String)
  | atom (name : String)
  | list (items : List Datum)
  | quoted (item : Datum)

inductive Place where
  | between
  | atom (name : List Char)
  | string (text : List Char)
  | escape (text : List Char)

def isDelimiter (c : Char) : Bool :=
  c.isWhitespace || c == '(' || c == ')' || c == '\'' || c == '"'

def unescape (c : Char) : Option Char :=
  if c = '"' then some '"'
  else if c = '\\' then some '\\'
  else if c = 'n' then some '\n'
  else none

def delimit (c : Char) : List Token × Place :=
  if c = '(' then ([.opening], .between)
  else if c = ')' then ([.closing], .between)
  else if c = '\'' then ([.quoting], .between)
  else if c = '"' then ([], .string [])
  else ([], .between)

def scanChar (place : Place) (c : Char) : Option (List Token × Place) :=
  match place with
  | .between => some (if isDelimiter c then delimit c else ([], .atom [c]))
  | .atom name =>
    some (if isDelimiter c then (.atom (String.ofList name) :: (delimit c).1, (delimit c).2)
      else ([], .atom (name ++ [c])))
  | .string text =>
    some (if c = '"' then ([.string (String.ofList text)], .between)
      else if c = '\\' then ([], .escape text)
      else ([], .string (text ++ [c])))
  | .escape text => (unescape c).map fun d => ([], .string (text ++ [d]))

def scanEnd : Place → Option (List Token)
  | .between => some []
  | .atom name => some [.atom (String.ofList name)]
  | .string _ => none
  | .escape _ => none

def scanner : Scanner Token Place where
  start := .between
  step := scanChar
  finish := scanEnd
  apart := isDelimiter

inductive Frame where
  | list (items : List Datum)
  | quoting

def settle : List Frame → Datum → List Frame ⊕ Datum
  | [], datum => .inr datum
  | .quoting :: frames, datum => settle frames (.quoted datum)
  | .list items :: frames, datum => .inl (.list (items ++ [datum]) :: frames)

def step (frames : List Frame) (token : Token) : Option (List Frame ⊕ Datum) :=
  match token with
  | .opening => some (.inl (.list [] :: frames))
  | .quoting => some (.inl (.quoting :: frames))
  | .string text => some (settle frames (.string text))
  | .atom name => some (settle frames (.atom name))
  | .closing =>
    match frames with
    | .list items :: outer => some (settle outer (.list items))
    | _ => none

def build : List Frame → List Token → Option Datum
  | _, [] => none
  | frames, token :: rest =>
    match step frames token with
    | none => none
    | some (.inl next) => build next rest
    | some (.inr datum) => if rest = [] then some datum else none

def read (text : String) : Option Datum := do
  build [] (← scanner.tokens text)

mutual

def Datum.tokens : Datum → List Token
  | .string text => [.string text]
  | .atom name => [.atom name]
  | .list items => .opening :: (allTokens items ++ [.closing])
  | .quoted item => .quoting :: item.tokens

def Datum.allTokens : List Datum → List Token
  | [] => []
  | item :: rest => item.tokens ++ Datum.allTokens rest

end

def resume (outcome : List Frame ⊕ Datum) (rest : List Token) : Option Datum :=
  match outcome with
  | .inl frames => build frames rest
  | .inr datum => if rest = [] then some datum else none

theorem build_cons (frames : List Frame) (token : Token) (rest : List Token)
    (outcome : List Frame ⊕ Datum) (h : step frames token = some outcome) :
    build frames (token :: rest) = resume outcome rest := by
  rw [build, h]
  cases outcome with
  | inl next => rfl
  | inr datum => rfl

mutual

/-- The tokens of a datum put the datum where it belongs, whatever is open around it. -/
theorem build_tokens (datum : Datum) (frames : List Frame) (rest : List Token) :
    build frames (datum.tokens ++ rest) = resume (settle frames datum) rest := by
  match datum with
  | .string text => exact build_cons frames _ rest _ rfl
  | .atom name => exact build_cons frames _ rest _ rfl
  | .list items =>
    rw [Datum.tokens, List.cons_append, build_cons frames .opening _ _ rfl, resume,
      List.append_assoc, build_allTokens items [] frames, List.nil_append, List.singleton_append]
    exact build_cons _ .closing rest _ rfl
  | .quoted item =>
    rw [Datum.tokens, List.cons_append, build_cons frames .quoting _ _ rfl, resume,
      build_tokens item (.quoting :: frames) rest, settle]

theorem build_allTokens (items before : List Datum) (frames : List Frame) (rest : List Token) :
    build (.list before :: frames) (Datum.allTokens items ++ rest) =
      build (.list (before ++ items) :: frames) rest := by
  match items with
  | [] => rw [Datum.allTokens, List.nil_append, List.append_nil]
  | item :: others =>
    rw [Datum.allTokens, List.append_assoc, build_tokens item, settle, resume,
      build_allTokens others, List.append_assoc, List.singleton_append]

end

theorem build_datum (datum : Datum) : build [] datum.tokens = some datum := by
  have h := build_tokens datum [] []
  rw [List.append_nil] at h
  rw [h]
  rfl

def isAtom (name : String) : Bool :=
  !name.toList.isEmpty && name.toList.all fun c => !isDelimiter c

/-- A run of characters without delimiters is one atom. -/
theorem scans_atom (name : String) (h : isAtom name = true) :
    scanner.Scans name.toList [.atom name] := by
  have hname : String.ofList name.toList = name := String.ofList_toList
  unfold isAtom at h
  generalize name.toList = chars at h hname ⊢
  cases chars with
  | nil => exact absurd h Bool.false_ne_true
  | cons c more =>
    have hn : ∀ d ∈ c :: more, isDelimiter d = false := by simpa using h
    have hc : isDelimiter c = false := hn c (by simp)
    apply scanner.scans_run .atom
    · simp [scanner, scanChar, hc]
    · intro text d hd
      simp [scanner, scanChar, hn d (by simp [hd])]
    · intro d hd
      have hdelimiter : isDelimiter d = true := hd
      simp [scanner, scanChar, hdelimiter, hname]
    · simp [scanner, scanEnd, hname]

theorem scan_backslash (text rest : List Char) (c d : Char) (h : unescape c = some d) :
    scanner.scan (.string text) ('\\' :: c :: rest) =
      scanner.scan (.string (text ++ [d])) rest := by
  have hs : scanner.step (.escape text) c = some ([], .string (text ++ [d])) := by
    simp [scanner, scanChar, h]
  rw [scanner.scan_within (.string text) (.escape text) '\\' _ rfl,
    scanner.scan_within _ _ c rest hs]

theorem scan_escapeInHost (text rest : List Char) (c : Char) :
    scanner.scan (.string text) (Literal.escapeInHost c ++ rest) =
      scanner.scan (.string (text ++ [c])) rest := by
  unfold Literal.escapeInHost
  split_ifs with hquote hback hline
  · subst hquote
    exact scan_backslash text rest '"' '"' rfl
  · subst hback
    exact scan_backslash text rest '\\' '\\' rfl
  · subst hline
    exact scan_backslash text rest 'n' '\n' rfl
  · have hs : scanner.step (.string text) c = some ([], .string (text ++ [c])) := by
      simp [scanner, scanChar, hquote, hback]
    rw [List.singleton_append, scanner.scan_within _ _ c rest hs]

/-- A string literal of the host is one token that holds the text. -/
theorem scans_quoteInHost (s : String) :
    scanner.Scans (Literal.quoteInHost s).toList [.string s] := by
  intro rest _
  rw [Literal.quoteInHost, String.toList_ofList, List.append_assoc, List.cons_append,
    scanner.scan_within scanner.start (.string []) '"' _ rfl, List.singleton_append,
    scanner.scan_encoded .string Literal.escapeInHost [] s.toList _
      (fun text c rest => scan_escapeInHost text rest c), List.nil_append,
    scanner.scan_cons _ .between '"' rest [.string (String.ofList s.toList)] rfl,
    String.ofList_toList]
  rfl

/-- A text that gives the tokens of a datum holds that datum and nothing besides it. -/
theorem read_of_scans (text : String) (datum : Datum)
    (h : scanner.Scans text.toList datum.tokens) : read text = some datum := by
  rw [read, Scanner.tokens, scanner.scan_of_scans _ _ h rfl]
  exact build_datum datum

end QueryBlocks.Host
