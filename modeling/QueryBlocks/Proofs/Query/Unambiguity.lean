import QueryBlocks.Proofs.Query.Parts

/-!
# No text has two derivations

Selections and definitions are known from their tokens as their parts are, by induction over
the nesting of selections. So a text derives at most one document.
-/

set_option autoImplicit false

namespace QueryBlocks.Query

def selectionEnds : List Char := [':', '(', '@', '{']

/-- The braces behind a field, if it has any. -/
theorem apart_braces (marks : List Char) (selections : List Selection) (rest : List Token)
    (hf : '{' ∉ marks) (h : Apart marks rest) :
    Apart marks (enclosed '{' '}' selections Selection.allTokens ++ rest) :=
  apart_enclosed marks '{' '}' selections _ rest hf h

theorem field_tokens (label : Option String) (name : String) (arguments : List (String × Value))
    (directives : List Directive) (selections : List Selection) (rest : List Token) :
    (Selection.field label name arguments directives selections).tokens ++ rest =
      aliasTokens label ++ .name name :: (argumentTokens arguments ++ (directiveTokens directives ++
        (enclosed '{' '}' selections Selection.allTokens ++ rest))) := by
  simp only [Selection.tokens, enclosed, List.append_assoc, List.cons_append]

theorem Selection.tokens_head (selection : Selection) :
    ∃ token rest, selection.tokens = token :: rest ∧ ∀ c, token ≠ .mark c := by
  cases selection with
  | field label name arguments directives selections =>
    cases label with
    | none => exact ⟨_, _, rfl, by simp⟩
    | some label => exact ⟨_, _, rfl, by simp⟩
  | spread fragment directives => exact ⟨_, _, rfl, by simp⟩
  | inline condition directives selections => exact ⟨_, _, rfl, by simp⟩

theorem apart_selections (selections : List Selection) (rest : List Token) :
    Apart selectionEnds (Selection.allTokens selections ++ .mark '}' :: rest) := by
  cases selections with
  | nil => exact apart_mark _ _ rest (by decide)
  | cons selection more =>
    obtain ⟨token, tail, ht, hm⟩ := selection.tokens_head
    rw [Selection.allTokens, ht]
    exact apart_cons _ _ _ (fun c _ => hm c)

/-- An alias is known from the colon behind it. -/
theorem aliasTokens_inj (label other : Option String) (name otherName : String)
    (rest others : List Token) (hr : Apart [':'] rest) (ho : Apart [':'] others)
    (h : aliasTokens label ++ .name name :: rest = aliasTokens other ++ .name otherName :: others) :
    label = other ∧ name = otherName ∧ rest = others := by
  cases label with
  | none =>
    cases other with
    | none => simpa [aliasTokens] using h
    | some other => exact absurd (congrArg List.head? (List.cons.inj h).2) (hr ':' (by simp))
  | some label =>
    cases other with
    | none => exact absurd (congrArg List.head? (List.cons.inj h).2.symm) (ho ':' (by simp))
    | some other => simpa [aliasTokens] using h

theorem conditionTokens_inj (condition other : Option String) (rest others : List Token)
    (hr : ∀ name, rest.head? ≠ some (.name name)) (ho : ∀ name, others.head? ≠ some (.name name))
    (h : conditionTokens condition ++ rest = conditionTokens other ++ others) :
    condition = other ∧ rest = others := by
  cases condition with
  | none =>
    cases other with
    | none => exact ⟨rfl, h⟩
    | some name => exact absurd (congrArg List.head? h) (hr "on")
  | some name =>
    cases other with
    | none => exact absurd (congrArg List.head? h.symm) (ho "on")
    | some other => simpa [conditionTokens] using h

theorem directives_not_name (directives : List Directive) (rest : List Token) (name : String) :
    (directiveTokens directives ++ .mark '{' :: rest).head? ≠ some (.name name) := by
  cases directives with
  | nil => simp [directiveTokens]
  | cons directive more => simp [directiveTokens, Directive.tokens]

/-- No fragment is called `on`, so a spread is not taken for an inline fragment. -/
theorem spread_ne_inline (fragment : String) (condition : Option String)
    (directives otherDirectives : List Directive) (rest others : List Token) (hf : fragment ≠ "on")
    (h : Token.name fragment :: (directiveTokens directives ++ rest) =
      conditionTokens condition ++ (directiveTokens otherDirectives ++ .mark '{' :: others)) :
    False := by
  cases condition with
  | none => exact directives_not_name otherDirectives others fragment (congrArg List.head? h).symm
  | some name => exact hf (Token.name.inj (List.cons.inj h).1)

mutual

theorem Selection.tokens_inj (selection other : Selection) (rest others : List Token)
    (hs : selection.Formed) (hf : other.Formed) (hr : Apart selectionEnds rest)
    (ho : Apart selectionEnds others) (h : selection.tokens ++ rest = other.tokens ++ others) :
    selection = other ∧ rest = others := by
  match selection with
  | .field label name arguments directives selections =>
    cases other with
    | field otherLabel otherName otherArguments otherDirectives otherSelections =>
      rw [field_tokens, field_tokens] at h
      have hbraces : ∀ selections rest, Apart selectionEnds rest →
          Apart [':', '(', '@'] (enclosed '{' '}' selections allTokens ++ rest) :=
        fun selections rest hr =>
          apart_braces _ selections rest (by decide) (hr.mono (by simp [selectionEnds]))
      have hdirectives : ∀ directives selections rest, Apart selectionEnds rest →
          Apart [':', '('] (directiveTokens directives ++
            (enclosed '{' '}' selections allTokens ++ rest)) := fun directives selections rest hr =>
        apart_directives _ directives _ (by decide) ((hbraces selections rest hr).mono (by simp))
      have harguments : ∀ arguments directives selections rest, Apart selectionEnds rest →
          Apart [':'] (argumentTokens arguments ++ (directiveTokens directives ++
            (enclosed '{' '}' selections allTokens ++ rest))) :=
        fun arguments directives selections rest hr => apart_enclosed _ '(' ')' arguments _ _
          (by decide) ((hdirectives directives selections rest hr).mono (by simp))
      obtain ⟨rfl, rfl, ha⟩ := aliasTokens_inj label otherLabel name otherName _ _
        (harguments _ _ _ _ hr) (harguments _ _ _ _ ho) h
      obtain ⟨rfl, hd⟩ := argumentTokens_inj arguments otherArguments false false _ _ hs.1 hf.1
        ((hdirectives _ _ _ hr).mono (by simp)) ((hdirectives _ _ _ ho).mono (by simp)) ha
      obtain ⟨rfl, hb⟩ := directiveTokens_inj directives otherDirectives false false _ _ hs.2.1
        hf.2.1 ((hbraces _ _ hr).mono (by simp)) ((hbraces _ _ ho).mono (by simp)) hd
      obtain ⟨rfl, hend⟩ := enclosed_inj '{' '}' selections otherSelections _ rest others
        (hr.mono (by simp [selectionEnds])) (ho.mono (by simp [selectionEnds]))
        (Selection.allTokens_inj selections otherSelections rest others hs.2.2 hf.2.2) hb
      exact ⟨rfl, hend⟩
    | spread fragment otherDirectives => cases label <;> simp [tokens, aliasTokens] at h
    | inline condition otherDirectives otherSelections =>
      cases label <;> simp [tokens, aliasTokens] at h
  | .spread fragment directives =>
    cases other with
    | field otherLabel otherName otherArguments otherDirectives otherSelections =>
      cases otherLabel <;> simp [tokens, aliasTokens] at h
    | spread otherFragment otherDirectives =>
      simp only [tokens, List.cons_append, List.cons.injEq, true_and, Token.name.injEq] at h
      obtain ⟨rfl, hd⟩ := h
      obtain ⟨rfl, hend⟩ := directiveTokens_inj directives otherDirectives false false rest others
        hs.2 hf.2 (hr.mono (by simp [selectionEnds])) (ho.mono (by simp [selectionEnds])) hd
      exact ⟨rfl, hend⟩
    | inline condition otherDirectives otherSelections =>
      simp only [tokens, List.cons_append, List.append_assoc, List.cons.injEq, true_and] at h
      exact (spread_ne_inline _ _ _ _ _ _ hs.1 h).elim
  | .inline condition directives selections =>
    cases other with
    | field otherLabel otherName otherArguments otherDirectives otherSelections =>
      cases otherLabel <;> simp [tokens, aliasTokens] at h
    | spread otherFragment otherDirectives =>
      simp only [tokens, List.cons_append, List.append_assoc, List.cons.injEq, true_and] at h
      exact (spread_ne_inline _ _ _ _ _ _ hf.1 h.symm).elim
    | inline otherCondition otherDirectives otherSelections =>
      simp only [tokens, List.cons_append, List.append_assoc, List.cons.injEq, true_and] at h
      have hbraces : ∀ rest, Apart ['(', '@'] (.mark '{' :: rest) :=
        fun rest => apart_mark _ _ rest (by decide)
      obtain ⟨rfl, hd⟩ := conditionTokens_inj condition otherCondition _ _
        (directives_not_name directives _) (directives_not_name otherDirectives _) h
      obtain ⟨rfl, hb⟩ := directiveTokens_inj directives otherDirectives false false _ _ hs.1 hf.1
        (hbraces _) (hbraces _) hd
      obtain ⟨rfl, hend⟩ := Selection.allTokens_inj selections otherSelections rest others
        hs.2.2 hf.2.2 (List.cons.inj hb).2
      exact ⟨rfl, hend⟩

theorem Selection.allTokens_inj (selections otherSelections : List Selection)
    (rest others : List Token) (hs : AllFormed selections) (hf : AllFormed otherSelections)
    (h : allTokens selections ++ .mark '}' :: rest =
      allTokens otherSelections ++ .mark '}' :: others) :
    selections = otherSelections ∧ rest = others := by
  match selections, otherSelections with
  | [], [] => exact ⟨rfl, (List.cons.inj h).2⟩
  | [], other :: more =>
    obtain ⟨token, tail, ht, hm⟩ := other.tokens_head
    simp only [allTokens, ht, List.nil_append, List.cons_append, List.cons.injEq] at h
    exact absurd h.1.symm (hm '}')
  | selection :: more, [] =>
    obtain ⟨token, tail, ht, hm⟩ := selection.tokens_head
    simp only [allTokens, ht, List.nil_append, List.cons_append, List.cons.injEq] at h
    exact absurd h.1 (hm '}')
  | selection :: more, other :: moreOthers =>
    simp only [allTokens, List.append_assoc] at h
    obtain ⟨rfl, hm⟩ := Selection.tokens_inj selection other _ _ hs.1 hf.1
      (apart_selections more rest) (apart_selections moreOthers others) h
    obtain ⟨rfl, hend⟩ := Selection.allTokens_inj more moreOthers rest others hs.2 hf.2 hm
    exact ⟨rfl, hend⟩

end

theorem setTokens_inj (selections otherSelections : List Selection) (rest others : List Token)
    (hs : SetFormed selections) (hf : SetFormed otherSelections)
    (h : setTokens selections ++ rest = setTokens otherSelections ++ others) :
    selections = otherSelections ∧ rest = others := by
  simp only [setTokens, List.cons_append, List.append_assoc, List.cons.injEq, true_and] at h
  exact Selection.allTokens_inj selections otherSelections rest others hs.2 hf.2 h

theorem apart_set (marks : List Char) (selections : List Selection) (rest : List Token)
    (hf : '{' ∉ marks) : Apart marks (setTokens selections ++ rest) :=
  apart_mark marks '{' _ hf

theorem nameTokens_inj (name other : Option String) (rest others : List Token)
    (hr : ∀ name, rest.head? ≠ some (.name name)) (ho : ∀ name, others.head? ≠ some (.name name))
    (h : nameTokens name ++ rest = nameTokens other ++ others) : name = other ∧ rest = others := by
  cases name with
  | none =>
    cases other with
    | none => exact ⟨rfl, h⟩
    | some other => exact absurd (congrArg List.head? h) (hr other)
  | some name =>
    cases other with
    | none => exact absurd (congrArg List.head? h.symm) (ho name)
    | some other => simpa [nameTokens] using h

theorem variables_not_name (declared : List Variable) (directives : List Directive)
    (selections : List Selection) (rest : List Token) (name : String) :
    (variableTokens declared ++ (directiveTokens directives ++
      (setTokens selections ++ rest))).head? ≠ some (.name name) := by
  cases declared with
  | nil => exact directives_not_name directives _ name
  | cons v more => simp [variableTokens, enclosed]

theorem Keyword.text_inj (keyword other : Keyword) (h : keyword.text = other.text) :
    keyword = other := by
  cases keyword <;> cases other <;> simp_all [Keyword.text]

theorem Keyword.text_ne_fragment (keyword : Keyword) : keyword.text ≠ "fragment" := by
  cases keyword <;> decide

theorem Definition.tokens_inj (definition other : Definition) (rest others : List Token)
    (hd : definition.Formed) (hf : other.Formed)
    (h : definition.tokens ++ rest = other.tokens ++ others) :
    definition = other ∧ rest = others := by
  cases definition with
  | shorthand selections =>
    cases other with
    | shorthand otherSelections =>
      obtain ⟨rfl, hend⟩ := setTokens_inj selections otherSelections rest others hd hf h
      exact ⟨rfl, hend⟩
    | _ => simp [Definition.tokens, setTokens] at h
  | operation keyword name declared directives selections =>
    cases other with
    | shorthand otherSelections => simp [Definition.tokens, setTokens] at h
    | operation otherKeyword otherName otherDeclared otherDirectives otherSelections =>
      simp only [Definition.tokens, List.cons_append, List.append_assoc, List.cons.injEq,
        Token.name.injEq] at h
      obtain ⟨hk, hn⟩ := h
      have hset : ∀ selections rest, Apart ['(', '@'] (setTokens selections ++ rest) :=
        fun selections rest => apart_set _ selections rest (by decide)
      have hdirectives : ∀ directives selections rest,
          Apart ['('] (directiveTokens directives ++ (setTokens selections ++ rest)) :=
        fun directives selections rest =>
          apart_directives _ directives _ (by decide) ((hset selections rest).mono (by simp))
      obtain ⟨rfl, hv⟩ := nameTokens_inj name otherName _ _ (variables_not_name _ _ _ _)
        (variables_not_name _ _ _ _) hn
      obtain ⟨rfl, hl⟩ := variableTokens_inj declared otherDeclared _ _ hd.1 hf.1
        (hdirectives _ _ _) (hdirectives _ _ _) hv
      obtain ⟨rfl, hb⟩ := directiveTokens_inj directives otherDirectives false false _ _ hd.2.1
        hf.2.1 (hset _ _) (hset _ _) hl
      obtain ⟨rfl, hend⟩ := setTokens_inj selections otherSelections rest others hd.2.2 hf.2.2 hb
      rw [Keyword.text_inj keyword otherKeyword hk]
      exact ⟨rfl, hend⟩
    | fragment otherName otherCondition otherDirectives otherSelections =>
      exact absurd (Token.name.inj (List.cons.inj h).1) keyword.text_ne_fragment
  | fragment name condition directives selections =>
    cases other with
    | shorthand otherSelections => simp [Definition.tokens, setTokens] at h
    | operation otherKeyword otherName otherDeclared otherDirectives otherSelections =>
      exact absurd (Token.name.inj (List.cons.inj h).1).symm otherKeyword.text_ne_fragment
    | fragment otherName otherCondition otherDirectives otherSelections =>
      simp only [Definition.tokens, List.cons_append, List.append_assoc, List.cons.injEq, true_and,
        Token.name.injEq] at h
      obtain ⟨rfl, rfl, hb⟩ := h
      obtain ⟨rfl, hset⟩ := directiveTokens_inj directives otherDirectives false false _ _ hd.2.1
        hf.2.1 (apart_set _ _ _ (by decide)) (apart_set _ _ _ (by decide)) hb
      obtain ⟨rfl, hend⟩ := setTokens_inj selections otherSelections rest others hd.2.2 hf.2.2 hset
      exact ⟨rfl, hend⟩

theorem Definition.tokens_ne_nil (definition : Definition) : definition.tokens ≠ [] := by
  cases definition <;> simp [Definition.tokens, setTokens]

theorem Document.tokens_inj (document other : Document) (hd : ∀ d ∈ document, d.Formed)
    (hf : ∀ d ∈ other, d.Formed) (h : Document.tokens document = Document.tokens other) :
    document = other := by
  induction document generalizing other with
  | nil =>
    cases other with
    | nil => rfl
    | cons definition more => simp [Document.tokens, definition.tokens_ne_nil] at h
  | cons definition more ih =>
    cases other with
    | nil => simp [Document.tokens, definition.tokens_ne_nil] at h
    | cons otherDefinition moreOthers =>
      simp only [Document.tokens, List.flatMap_cons] at h
      obtain ⟨rfl, hm⟩ := Definition.tokens_inj definition otherDefinition _ _
        (hd definition (by simp)) (hf otherDefinition (by simp)) h
      rw [ih moreOthers (fun d hm => hd d (by simp [hm])) (fun d hm => hf d (by simp [hm])) hm]

/-- The grammar is unambiguous: a text derives at most one document. -/
theorem Derives.unique {text : String} {document other : Document} (h : Derives text document)
    (ho : Derives text other) : document = other :=
  Document.tokens_inj document other h.1.2 ho.1.2 (Option.some.inj (h.2.symm.trans ho.2))

end QueryBlocks.Query
