import Mathlib.Data.Bool.AllAny
import QueryBlocks.Plan.Fragment
import QueryBlocks.Proofs.Host.Reader
import QueryBlocks.Proofs.Number.Layout

/-!
# The host carries out a plan

The host evaluates the expression that it reads: a string is its text, an atom its name, and
a join is what its parts give, one behind the other. A printed plan gives the host the text
that the plan gives here, and the coercions of every join in it.
-/

set_option autoImplicit false

namespace QueryBlocks

inductive Coercions where
  | leaf
  | join (kinds : List Primitive) (parts : List Coercions)

namespace Fragment

mutual

def coercionTree : Fragment → Coercions
  | .append parts kinds => .join kinds (coercionTrees parts)
  | .literal _ => .leaf
  | .null => .leaf
  | .value _ => .leaf

def coercionTrees : List Fragment → List Coercions
  | [] => []
  | part :: rest => coercionTree part :: coercionTrees rest

end

end Fragment

namespace Host

/-- What an expression gives: a text, and the coercions that it asks for. -/
structure Meaning where
  text : String
  coercions : Coercions

def atomText (name : String) : String :=
  if name = "#t" then "true" else if name = "#f" then "false" else name

def kindOf : Datum → Option Primitive
  | .atom name => Primitive.ofTag? name
  | _ => none

mutual

def evaluate : Datum → Option Meaning
  | .string text => some { text, coercions := .leaf }
  | .atom name => some { text := atomText name, coercions := .leaf }
  | .list [.atom call, .atom primitive, .list (.atom collect :: parts), .quoted (.list kinds),
      .string purpose] =>
    if call = "call-yail-primitive" ∧ primitive = "string-append" ∧
        collect = "*list-for-runtime*" ∧ purpose = "join" then do
      let coercions ← kinds.mapM kindOf
      let (text, below) ← evaluateAll parts
      return { text, coercions := .join coercions below }
    else none
  | _ => none

def evaluateAll : List Datum → Option (String × List Coercions)
  | [] => some ("", [])
  | part :: rest => do
    let first ← evaluate part
    let (text, below) ← evaluateAll rest
    return (first.text ++ text, first.coercions :: below)

end

def run (text : String) : Option Meaning := (read text).bind evaluate

end Host

namespace Fragment

open Host

def kindsDatum (kinds : List Primitive) : Datum := .list (kinds.map fun kind => .atom kind.tag)

def valueDatum : BoundValue → Datum
  | .number x => .atom x.toString
  | .boolean b => .atom (if b then "#t" else "#f")
  | .text s => .string (BoundValue.text s).literal
  | .enum name => .string name

mutual

def hostDatum : Fragment → Datum
  | .literal text => .string text
  | .null => .string Literal.null
  | .value bound => valueDatum bound
  | .append parts kinds =>
    .list [.atom "call-yail-primitive", .atom "string-append",
      .list (.atom "*list-for-runtime*" :: hostData parts), .quoted (kindsDatum kinds),
      .string "join"]

def hostData : List Fragment → List Datum
  | [] => []
  | part :: rest => hostDatum part :: hostData rest

end

theorem ofTag?_tag (kind : Primitive) : Primitive.ofTag? kind.tag = some kind := by
  cases kind <;> decide

theorem mapM_kindOf (kinds : List Primitive) :
    (kinds.map fun kind => Datum.atom kind.tag).mapM kindOf = some kinds := by
  induction kinds with
  | nil => rfl
  | cons kind kinds ih =>
    rw [List.map_cons, List.mapM_cons, ih, kindOf, ofTag?_tag]
    rfl

theorem digit_plain (c : Char) (h : c.isDigit = true) : isDelimiter c = false ∧ c ≠ '#' := by
  have hne : ∀ d, d.isDigit = false → c ≠ d := by
    intro d hd he
    rw [he, hd] at h
    exact Bool.false_ne_true h
  simp [isDelimiter, Char.isWhitespace, hne]

/-- No delimiter and no truth value is among the characters of a number. -/
theorem text_plain (x : Binary64) :
    x.text ≠ [] ∧ ∀ c ∈ x.text, isDelimiter c = false ∧ c ≠ '#' := by
  match x with
  | .nan => exact ⟨by decide, List.all_iff_forall_prop.mp (by decide)⟩
  | .infinite true => exact ⟨by decide, List.all_iff_forall_prop.mp (by decide)⟩
  | .infinite false => exact ⟨by decide, List.all_iff_forall_prop.mp (by decide)⟩
  | .finite negative units hr =>
    obtain ⟨magnitude, hl, ht⟩ := Binary64.text_finite negative units hr
    rw [ht]
    refine ⟨by simp [hl.ne_nil], fun c hc => ?_⟩
    rcases List.mem_append.mp hc with h | h
    · cases negative with
      | true =>
        rw [List.mem_singleton.mp h]
        decide
      | false => cases h
    · rcases hl.chars c h with hd | hp
      · exact digit_plain c hd
      · rw [hp]
        decide

theorem evaluate_value (bound : BoundValue) :
    evaluate (valueDatum bound) = some { text := bound.literal, coercions := .leaf } := by
  cases bound with
  | text s => rfl
  | enum name => rfl
  | boolean b => cases b <;> rfl
  | number x =>
    have hne : ∀ rest, x.toString ≠ String.ofList ('#' :: rest) := by
      intro rest he
      have hl := String.ofList_injective he
      exact ((text_plain x).2 '#' (by rw [hl]; simp)).2 rfl
    have ht : x.toString ≠ "#t" := hne ['t']
    have hf : x.toString ≠ "#f" := hne ['f']
    rw [valueDatum, evaluate, atomText, if_neg ht, if_neg hf]
    rfl

mutual

theorem evaluate_hostDatum (plan : Fragment) :
    evaluate plan.hostDatum = some { text := plan.render, coercions := plan.coercionTree } := by
  match plan with
  | .literal text => rfl
  | .null => rfl
  | .value bound => exact evaluate_value bound
  | .append parts kinds =>
    rw [hostDatum, kindsDatum, evaluate, if_pos (by decide), mapM_kindOf,
      evaluateAll_hostData parts]
    rfl

theorem evaluateAll_hostData (parts : List Fragment) :
    evaluateAll (hostData parts) = some (renderParts parts, coercionTrees parts) := by
  match parts with
  | [] => rfl
  | part :: rest =>
    rw [hostData, evaluateAll, evaluate_hostDatum part, evaluateAll_hostData rest]
    rfl

end

theorem scans_space (text : List Char) (tokens : List Token) (h : scanner.Scans text tokens) :
    scanner.Scans (' ' :: text) tokens := scanner.scans_cons ' ' [] text tokens rfl h

theorem scans_closing (text : List Char) (tokens : List Token) (h : scanner.Scans text tokens) :
    scanner.Scans (')' :: text) (.closing :: tokens) :=
  scanner.scans_cons ')' [.closing] text tokens rfl h

theorem scans_opening (text : List Char) (tokens : List Token) (h : scanner.Scans text tokens) :
    scanner.Scans ('(' :: text) (.opening :: tokens) :=
  scanner.scans_cons '(' [.opening] text tokens rfl h

theorem scans_value (bound : BoundValue) :
    scanner.Scans (hostValue bound).toList (valueDatum bound).tokens := by
  cases bound with
  | text s => exact scans_quoteInHost _
  | enum name => exact scans_quoteInHost name
  | boolean b => cases b <;> exact scans_atom _ (by decide)
  | number x =>
    obtain ⟨hne, hplain⟩ := text_plain x
    have hatom : isAtom x.toString = true := by
      rw [isAtom, Binary64.toString, String.toList_ofList]
      simpa [hne] using fun c hc => (hplain c hc).1
    exact scans_atom x.toString hatom

theorem scans_tag (kind : Primitive) : scanner.Scans kind.tag.toList [.atom kind.tag] := by
  cases kind <;> exact scans_atom _ (by decide)

theorem scans_kinds (kinds : List Primitive) (text : List Char) (tokens : List Token)
    (h : scanner.Scans text tokens) (ho : scanner.Opens text) :
    scanner.Scans ((" ".intercalate (kinds.map Primitive.tag)).toList ++ text)
      (Datum.allTokens (kinds.map fun kind => .atom kind.tag) ++ tokens) := by
  induction kinds with
  | nil => exact h
  | cons kind kinds ih =>
    cases kinds with
    | nil =>
      rw [List.map_singleton, String.intercalate_singleton]
      exact scanner.scans_append _ _ _ _ (scans_tag kind) h ho
    | cons next others =>
      have hkind := scanner.scans_append _ _ _ _ (scans_tag kind) (scans_space _ _ ih)
        (scanner.opens_cons ' ' _ rfl)
      rw [List.map_cons, List.map_cons, String.intercalate_cons_cons, String.toList_append,
        String.toList_append, List.append_assoc, List.append_assoc]
      exact hkind

def joinEnd (kinds : List Primitive) : List Char :=
  ") '(".toList ++ ((" ".intercalate (kinds.map Primitive.tag)).toList ++ ") \"join\")".toList)

theorem scans_joinEnd (kinds : List Primitive) :
    scanner.Scans (joinEnd kinds)
      (.closing :: ((Datum.quoted (kindsDatum kinds)).tokens ++ [.string "join", .closing])) := by
  have hword := scanner.scans_append (Literal.quoteInHost "join").toList [')'] _ _
    (scans_quoteInHost "join") (scans_closing _ _ scanner.scans_nil) (scanner.opens_cons ')' [] rfl)
  have hpurpose : scanner.Scans ") \"join\")".toList [.closing, .string "join", .closing] :=
    scans_closing _ _ (scans_space _ _ hword)
  have hkinds := scans_kinds kinds _ _ hpurpose (scanner.opens_cons ')' _ rfl)
  have hquoted := scanner.scans_cons '\'' [.quoting] _ _ rfl (scans_opening _ _ hkinds)
  have hend := scans_closing _ _ (scans_space _ _ hquoted)
  rw [Datum.tokens, kindsDatum, Datum.tokens, List.cons_append, List.cons_append, List.append_assoc]
  exact hend

/-- The beginning of a join, before its parts. -/
theorem scans_joinStart (text : List Char) (tokens : List Token) (h : scanner.Scans text tokens)
    (ho : scanner.Opens text) :
    scanner.Scans ("(call-yail-primitive string-append (*list-for-runtime*".toList ++ text)
      (.opening :: .atom "call-yail-primitive" :: .atom "string-append" :: .opening ::
        .atom "*list-for-runtime*" :: tokens) := by
  have hcollect := scanner.scans_append _ _ _ _
    (scans_atom "*list-for-runtime*" (by decide)) h ho
  have hprimitive := scanner.scans_append _ _ _ _ (scans_atom "string-append" (by decide))
    (scans_space _ _ (scans_opening _ _ hcollect)) (scanner.opens_cons ' ' _ rfl)
  have hcall := scanner.scans_append _ _ _ _ (scans_atom "call-yail-primitive" (by decide))
    (scans_space _ _ hprimitive) (scanner.opens_cons ' ' _ rfl)
  exact scans_opening _ _ hcall

theorem opens_hostParts (parts : List Fragment) (text : List Char) (ho : scanner.Opens text) :
    scanner.Opens ((hostParts parts).toList ++ text) := by
  cases parts with
  | nil => exact ho
  | cons part rest =>
    rw [hostParts, String.toList_append, String.toList_append, List.append_assoc, List.append_assoc]
    exact scanner.opens_cons ' ' _ rfl

theorem toList_hostCode_append (parts : List Fragment) (kinds : List Primitive) :
    (Fragment.append parts kinds).hostCode.toList =
      "(call-yail-primitive string-append (*list-for-runtime*".toList ++
        ((hostParts parts).toList ++ joinEnd kinds) := by
  unfold joinEnd hostCode
  rw [String.toList_append, String.toList_append, String.toList_append, String.toList_append,
    List.append_assoc, List.append_assoc, List.append_assoc]

mutual

/-- A printed plan gives the tokens of its datum. -/
theorem scans_hostCode (plan : Fragment) :
    scanner.Scans plan.hostCode.toList plan.hostDatum.tokens := by
  match plan with
  | .literal text => exact scans_quoteInHost text
  | .null => exact scans_quoteInHost Literal.null
  | .value bound => exact scans_value bound
  | .append parts kinds =>
    have hends : scanner.Opens (joinEnd kinds) := scanner.opens_cons ')' _ rfl
    have hparts := scans_hostParts parts _ _ (scans_joinEnd kinds) hends
    have hjoin := scans_joinStart _ _ hparts (opens_hostParts parts _ hends)
    rw [toList_hostCode_append]
    simpa [hostDatum, Datum.tokens, Datum.allTokens] using hjoin

theorem scans_hostParts (parts : List Fragment) (text : List Char) (tokens : List Token)
    (h : scanner.Scans text tokens) (ho : scanner.Opens text) :
    scanner.Scans ((hostParts parts).toList ++ text)
      (Datum.allTokens (hostData parts) ++ tokens) := by
  match parts with
  | [] => exact h
  | part :: rest =>
    have hrest := scans_hostParts rest text tokens h ho
    have hpart := scanner.scans_append _ _ _ _ (scans_hostCode part) hrest
      (opens_hostParts rest text ho)
    rw [hostParts, hostData, Datum.allTokens, String.toList_append, String.toList_append,
      List.append_assoc, List.append_assoc, List.append_assoc]
    exact scans_space _ _ hpart

end

/-- Reading a printed plan takes the whole text, and evaluating what was read gives the text
of the plan and the coercions of all its joins. -/
theorem run_hostCode (plan : Fragment) :
    run plan.hostCode = some { text := plan.render, coercions := plan.coercionTree } := by
  rw [run, read_of_scans _ _ (scans_hostCode plan), Option.bind_some, evaluate_hostDatum]

end Fragment

end QueryBlocks
