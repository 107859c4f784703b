import QueryBlocks.Proofs.Block.Reading
import QueryBlocks.Proofs.Query.Derivation
import QueryBlocks.Proofs.Query.Names

/-!
# Literals of loaded values

A document may give a number that is not finite, and any text for an enum. Every other value
that is read from a document is written as one literal of its kind, with nothing besides, and
as such goes into the arguments of a field.
-/

set_option autoImplicit false

namespace QueryBlocks

open Xml (Element)

namespace Document

def heldText (element : Element) : String :=
  ((firstNamed Xml.valueElement element.children).map Element.text).getD ""

inductive Holds : String → String → BoundValue → Prop
  | text (text : String) : Holds "text" text (.text text)
  | number (text : String) (x : Binary64) (h : Binary64.ofString? text = some x) :
    Holds "math_number" text (.number x)
  | yes : Holds "logic_boolean" "TRUE" (.boolean true)
  | no : Holds "logic_boolean" "FALSE" (.boolean false)
  | enum (name : String) : Holds "gql_enum" name (.enum name)

theorem readNumber_eq_ok (text : String) (v : BoundValue) :
    readNumber text = .ok v ↔ ∃ x, Binary64.ofString? text = some x ∧ .number x = v := by
  unfold readNumber
  cases Binary64.ofString? text with
  | none => simp
  | some x => simp

theorem readBoolean_eq_ok (text : String) (v : BoundValue) :
    readBoolean text = .ok v ↔
      text = "TRUE" ∧ .boolean true = v ∨ text = "FALSE" ∧ .boolean false = v := by
  unfold readBoolean
  by_cases hyes : text = "TRUE"
  · simp [hyes]
  · by_cases hno : text = "FALSE"
    · simp [hno]
    · simp [hyes, hno]

def readHeld (type text : String) : Except LoadError BoundValue :=
  if type = "text" then .ok (.text text)
  else if type = "math_number" then readNumber text
  else if type = "logic_boolean" then readBoolean text
  else if type = "gql_enum" then .ok (.enum text)
  else .error (.invalidAttribute "type" type)

theorem readHeld_eq_ok (type text : String) (v : BoundValue) :
    readHeld type text = .ok v ↔ Holds type text v := by
  constructor
  · intro h
    unfold readHeld at h
    split_ifs at h with htext hnumber hboolean henum
    · cases h
      rw [htext]
      exact .text text
    · obtain ⟨x, hx, rfl⟩ := (readNumber_eq_ok text v).mp h
      rw [hnumber]
      exact .number text x hx
    · rw [hboolean]
      rcases (readBoolean_eq_ok text v).mp h with ⟨rfl, rfl⟩ | ⟨rfl, rfl⟩
      · exact .yes
      · exact .no
    · cases h
      rw [henum]
      exact .enum text
  · intro h
    cases h with
    | number text x hx => exact (readNumber_eq_ok text _).mpr ⟨x, hx, rfl⟩
    | _ => rfl

/-- A value is read from a block of a known type, by what the type makes of the text. -/
theorem readValue_eq_ok (element : Element) (v : BoundValue) :
    readValue element = .ok v ↔ element.name = "block" ∧
      ∃ type, element.attribute? "type" = some type ∧ Holds type (heldText element) v := by
  have hread : readValue element =
      ((expectName "block" element).bind fun _ => (require element "type").bind fun type =>
        readHeld type (heldText element)) := rfl
  rw [hread, expectName, require]
  by_cases hn : element.name = "block"
  · cases element.attribute? "type" with
    | none => simp [hn, Except.bind]
    | some type => simp [hn, Except.bind, readHeld_eq_ok]
  · simp [hn, Except.bind]

end Document

open Document (Holds heldText plugBlock readValue)

namespace Query

/-- The first character begins the string, and no character before the last one ends it. -/
def IsStringLiteral (text : String) : Prop :=
  text.toList.head? = some '"' ∧ scanner.scan scanner.start text.toList.dropLast = none ∧
    ∃ s, scanner.tokens text = some [.string s]

/-- The text is one literal of the kind of the value, from the first character to the last. -/
def IsLiteral (text : String) : BoundValue → Prop
  | .text _ => IsStringLiteral text
  | .number _ => scanner.tokens text = some [.int text] ∨ scanner.tokens text = some [.float text]
  | .boolean _ => text = "true" ∨ text = "false"
  | .enum _ =>
    scanner.tokens text = some [.name text] ∧ text ≠ "true" ∧ text ≠ "false" ∧ text ≠ "null"

theorem isStringLiteral_quoteInQuery (s : String) : IsStringLiteral (Literal.quoteInQuery s) := by
  refine ⟨?_, ?_, s, scanner.scan_of_scans _ _ (scans_quoteInQuery s) rfl⟩
  · rw [Literal.quoteInQuery, String.toList_ofList]
    rfl
  · rw [Literal.quoteInQuery, String.toList_ofList, List.dropLast_concat,
      scanner.scan_within scanner.start .quote '"' _ rfl]
    by_cases ht : s.toList = []
    · rw [ht]
      rfl
    · have hbody := scanner.scan_encoded .string Literal.escapeInQuery [] s.toList []
        (fun text c rest => scan_escapeInQuery text rest c)
      rw [← List.append_nil (s.toList.flatMap _), scan_quote _ _ ht, hbody]
      rfl

theorem isLiteral_number (x : Binary64) (h : Presentable (.number x)) :
    IsLiteral x.toString (.number x) := by
  rcases scans_number x h with hs | hs
  · exact Or.inl (scanner.scan_of_scans _ _ hs rfl)
  · exact Or.inr (scanner.scan_of_scans _ _ hs rfl)

/-- The words for what is no finite number are names, or no tokens at all. -/
theorem not_isLiteral_number (x : Binary64) (h : x.isFinite = false) :
    ¬ IsLiteral x.toString (.number x) := by
  cases x with
  | nan =>
    change ¬ (scanner.tokens "NaN" = some [.int "NaN"] ∨ scanner.tokens "NaN" = some [.float "NaN"])
    decide
  | infinite negative =>
    cases negative with
    | false =>
      change ¬ (scanner.tokens "inf" = some [.int "inf"] ∨
        scanner.tokens "inf" = some [.float "inf"])
      decide
    | true =>
      change ¬ (scanner.tokens "-inf" = some [.int "-inf"] ∨
        scanner.tokens "-inf" = some [.float "-inf"])
      decide
  | finite negative units hr => cases h

/-- A text that is scanned as a name is a name. -/
theorem tokens_name_iff (text : String) :
    scanner.tokens text = some [.name text] ↔ isName text = true := by
  constructor
  · intro h
    exact scan_named .between text.toList trivial _ h _ List.mem_cons_self
  · intro h
    exact scanner.scan_of_scans _ _ (scans_name text h) rfl

theorem isLiteral_iff (v : BoundValue) : IsLiteral v.literal v ↔ Presentable v := by
  cases v with
  | text s => exact ⟨fun _ => trivial, fun _ => isStringLiteral_quoteInQuery s⟩
  | number x =>
    refine ⟨fun h => ?_, isLiteral_number x⟩
    cases x with
    | finite negative units hr => exact ⟨negative, units, hr, rfl⟩
    | _ => exact absurd h (not_isLiteral_number _ rfl)
  | boolean b =>
    refine ⟨fun _ => trivial, fun _ => ?_⟩
    cases b with
    | true => exact Or.inl rfl
    | false => exact Or.inr rfl
  | enum name => exact and_congr_left' (tokens_name_iff name)

/-- The text of an argument list has the tokens of the arguments and no others. -/
theorem arguments_tokens (parameters : List Parameter)
    (h : ∀ p ∈ parameters, ParameterPresentable p) :
    ∃ arguments, List.Forall₂ ArgumentDenotes arguments parameters ∧
      Value.FieldsFormed false arguments ∧
      scanner.tokens (printedArguments parameters) = some (argumentTokens arguments) := by
  obtain ⟨arguments, hd, hf, hs⟩ := parameters_derive parameters h
  refine ⟨arguments, hd, hf, ?_⟩
  cases hd with
  | nil => rfl
  | @cons argument p arguments rest hp hrest =>
    have hend := hs _ _ (scans_mark ')' _ _ rfl rfl scanner.scans_nil) (scanner.opens_cons ')' _ rfl)
    have hall := scans_mark '(' _ _ rfl rfl hend
    rw [Scanner.tokens, printedArguments, List.isEmpty_cons, if_neg Bool.false_ne_true,
      String.toList_append, String.toList_append, List.append_assoc]
    exact scanner.scan_of_scans _ _ hall rfl

/-- What the literal of a value needs of the element that holds the value: a finite number, if it
is a number, and a name that is no other literal, if it is an enum. -/
def Writable (element : Element) : Prop :=
  (element.attribute? "type" = some "math_number" →
      ∃ negative units hr,
        Binary64.ofString? (heldText element) = some (.finite negative units hr)) ∧
    (element.attribute? "type" = some "gql_enum" →
      isName (heldText element) = true ∧ heldText element ≠ "true" ∧
        heldText element ≠ "false" ∧ heldText element ≠ "null")

theorem writable_iff (element : Element) (type : String) (v : BoundValue)
    (ht : element.attribute? "type" = some type) (h : Holds type (heldText element) v) :
    Writable element ↔ Presentable v := by
  rw [Writable, ht]
  generalize heldText element = text at h
  cases h with
  | number _ x hx => simp [Presentable, hx]
  | enum => simp [Presentable]
  | _ => simp [Presentable]

/-- A value that is read from an element is written as one literal of its kind exactly if the
element holds a finite number or a name where it has to. An argument list with the value in it
is then read as the arguments that the parameters ask for. -/
theorem readValue_literal (element : Element) (v : BoundValue) (h : readValue element = .ok v) :
    (IsLiteral v.literal v ↔ Writable element) ∧
      (Writable element → ∀ before p after, isName p.name = true → p.value = some v →
        (∀ q ∈ before ++ after, ParameterPresentable q) →
        ∃ arguments, List.Forall₂ ArgumentDenotes arguments (before ++ p :: after) ∧
          Value.FieldsFormed false arguments ∧
          scanner.tokens (printedArguments (before ++ p :: after)) =
            some (argumentTokens arguments)) := by
  obtain ⟨-, type, ht, hholds⟩ := (Document.readValue_eq_ok element v).mp h
  have hw := writable_iff element type v ht hholds
  refine ⟨(isLiteral_iff v).trans hw.symm, fun hwritable before p after hname hv hothers => ?_⟩
  have hp : ParameterPresentable p := by
    refine ⟨hname, fun value hvalue => ?_⟩
    rw [hv] at hvalue
    cases hvalue
    exact hw.mp hwritable
  apply arguments_tokens
  intro q hq
  rcases List.mem_append.mp hq with hq | hq
  · exact hothers q (List.mem_append_left _ hq)
  · rcases List.mem_cons.mp hq with rfl | hq
    · exact hp
    · exact hothers q (List.mem_append_right _ hq)

def sortingParameters (order : String) : List Parameter :=
  [{ name := "first", typeName := "Int", value := none },
    { name := "order", typeName := "Order", value := some (.enum order) },
    { name := "exact", typeName := "Boolean", value := some (.boolean true) }]

theorem readValue_literal_order :
    readValue (plugBlock "gql_enum" "ENUM" "DESC") = .ok (.enum "DESC") ∧
      Writable (plugBlock "gql_enum" "ENUM" "DESC") ∧ IsLiteral "DESC" (.enum "DESC") ∧
      ∃ arguments, List.Forall₂ ArgumentDenotes arguments (sortingParameters "DESC") ∧
        Value.FieldsFormed false arguments ∧
        scanner.tokens (printedArguments (sortingParameters "DESC")) =
          some (argumentTokens arguments) := by
  have hw : Writable (plugBlock "gql_enum" "ENUM" "DESC") :=
    ⟨fun h => absurd h (by decide), fun _ => by decide⟩
  obtain ⟨hliteral, harguments⟩ :=
    readValue_literal (plugBlock "gql_enum" "ENUM" "DESC") (.enum "DESC") rfl
  have hothers : ∀ q ∈ [{ name := "first", typeName := "Int", value := none }] ++
      [({ name := "exact", typeName := "Boolean", value := some (.boolean true) } : Parameter)],
      ParameterPresentable q := by
    intro q hq
    rcases List.mem_cons.mp hq with rfl | hq
    · exact ⟨by decide, fun value hv => by cases hv⟩
    · rw [List.mem_singleton.mp hq]
      exact ⟨by decide, fun value hv => by cases hv; trivial⟩
  exact ⟨rfl, hw, hliteral.mpr hw,
    harguments hw [{ name := "first", typeName := "Int", value := none }] _
      [{ name := "exact", typeName := "Boolean", value := some (.boolean true) }] rfl rfl hothers⟩

theorem argumentTokens_ne (name : String) (arguments : List (String × Value)) :
    argumentTokens arguments ≠ [.mark '(', .name name, .mark ':', .mark ')'] := by
  intro h
  cases arguments with
  | nil => cases h
  | cons argument rest =>
    obtain ⟨label, value⟩ := argument
    cases value <;> simp [argumentTokens, enclosed, Value.fieldTokens, Value.tokens] at h

/-- Infinity is written as a word, and an enum without text leaves its argument without value. -/
theorem unwritable_values :
    readValue (plugBlock "math_number" "NUM" "inf") = .ok (.number (.infinite false)) ∧
      ¬ IsLiteral (BoundValue.number (.infinite false)).literal (.number (.infinite false)) ∧
      readValue (plugBlock "gql_enum" "ENUM" "") = .ok (.enum "") ∧
      ¬ IsLiteral (BoundValue.enum "").literal (.enum "") ∧
      ∀ arguments, scanner.tokens
          (printedArguments [{ name := "order", typeName := "Order", value := some (.enum "") }]) ≠
        some (argumentTokens arguments) := by
  refine ⟨by decide, not_isLiteral_number _ rfl, rfl, ?_, ?_⟩
  · rw [isLiteral_iff]
    intro h
    exact absurd h.1 (by decide)
  · intro arguments h
    exact argumentTokens_ne "order" arguments (Option.some.inj h).symm

end Query

end QueryBlocks
