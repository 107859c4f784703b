import QueryBlocks.Proofs.Query.Syntax

/-!
# Parts of documents are known from their tokens

Every part of the grammar shows by its first token what it is, and by the token behind it
that it is over. So two values, argument lists, directives or declared with the same tokens
are the same.
-/

set_option autoImplicit false

namespace QueryBlocks.Query

def Apart (marks : List Char) (rest : List Token) : Prop :=
  ∀ c ∈ marks, rest.head? ≠ some (.mark c)

theorem apart_cons (marks : List Char) (token : Token) (rest : List Token)
    (h : ∀ c ∈ marks, token ≠ .mark c) : Apart marks (token :: rest) := by
  intro c hc he
  exact h c hc (Option.some.inj he)

theorem apart_mark (marks : List Char) (c : Char) (rest : List Token) (h : c ∉ marks) :
    Apart marks (.mark c :: rest) := by
  apply apart_cons
  intro d hd he
  cases he
  exact h hd

theorem Apart.mono {marks more : List Char} {rest : List Token} (h : Apart more rest)
    (hs : marks ⊆ more) : Apart marks rest := fun c hc => h c (hs hc)

/-- A first token that no list between brackets ends with. -/
theorem Value.tokens_head (value : Value) :
    ∃ token rest, value.tokens = token :: rest ∧ token ≠ .mark ']' := by
  cases value <;> exact ⟨_, _, rfl, by simp⟩

mutual

theorem Value.tokens_inj (value other : Value) (a b : Bool) (rest others : List Token)
    (hv : value.Formed a) (ho : other.Formed b)
    (h : value.tokens ++ rest = other.tokens ++ others) :
    value = other ∧ rest = others := by
  match value with
  | .list items =>
    cases other with
    | list otherItems =>
      simp only [Value.tokens, List.cons_append, List.append_assoc, List.nil_append,
        List.cons.injEq, true_and] at h
      obtain ⟨rfl, hr⟩ := Value.itemTokens_inj items otherItems a b rest others hv ho h
      exact ⟨rfl, hr⟩
    | _ => simp [Value.tokens] at h
  | .object fields =>
    cases other with
    | object otherFields =>
      simp only [Value.tokens, List.cons_append, List.append_assoc, List.nil_append,
        List.cons.injEq, true_and] at h
      obtain ⟨rfl, hr⟩ := Value.fieldTokens_inj fields otherFields a b '}' rest others hv ho h
      exact ⟨rfl, hr⟩
    | _ => simp [Value.tokens] at h
  | .reference name => cases other <;> simp_all [Value.tokens]
  | .int text => cases other <;> simp_all [Value.tokens]
  | .float text => cases other <;> simp_all [Value.tokens]
  | .string text => cases other <;> simp_all [Value.tokens]
  | .block raw => cases other <;> simp_all [Value.tokens]
  | .boolean truth =>
    cases other with
    | boolean otherTruth => cases truth <;> cases otherTruth <;> simp_all [Value.tokens]
    | enum name => cases truth <;> simp_all [Value.tokens, Value.Formed]
    | _ => cases truth <;> simp [Value.tokens] at h
  | .null =>
    cases other with
    | boolean truth => cases truth <;> simp [Value.tokens] at h
    | enum name => simp_all [Value.tokens, Value.Formed]
    | _ => simp_all [Value.tokens]
  | .enum name =>
    cases other with
    | boolean truth => cases truth <;> simp_all [Value.tokens, Value.Formed]
    | null => simp_all [Value.tokens, Value.Formed]
    | _ => simp_all [Value.tokens]

theorem Value.itemTokens_inj (items otherItems : List Value) (a b : Bool)
    (rest others : List Token) (hi : Value.ItemsFormed a items)
    (ho : Value.ItemsFormed b otherItems)
    (h : itemTokens items ++ .mark ']' :: rest = itemTokens otherItems ++ .mark ']' :: others) :
    items = otherItems ∧ rest = others := by
  match items, otherItems with
  | [], [] => simpa [Value.itemTokens] using h
  | [], other :: more =>
    obtain ⟨token, tail, ht, hne⟩ := other.tokens_head
    simp [Value.itemTokens, ht] at h
    exact absurd h.1.symm hne
  | item :: more, [] =>
    obtain ⟨token, tail, ht, hne⟩ := item.tokens_head
    simp [Value.itemTokens, ht] at h
    exact absurd h.1 hne
  | item :: more, other :: others =>
    simp only [Value.itemTokens, List.append_assoc] at h
    obtain ⟨rfl, hr⟩ := Value.tokens_inj item other a b _ _ hi.1 ho.1 h
    obtain ⟨rfl, hs⟩ := Value.itemTokens_inj more others a b rest _ hi.2 ho.2 hr
    exact ⟨rfl, hs⟩

theorem Value.fieldTokens_inj (fields otherFields : List (String × Value)) (a b : Bool)
    (last : Char) (rest others : List Token) (hi : Value.FieldsFormed a fields)
    (ho : Value.FieldsFormed b otherFields)
    (h : fieldTokens fields ++ .mark last :: rest =
      fieldTokens otherFields ++ .mark last :: others) :
    fields = otherFields ∧ rest = others := by
  match fields, otherFields with
  | [], [] => simpa [Value.fieldTokens] using h
  | [], (name, other) :: more => simp [Value.fieldTokens] at h
  | (name, value) :: more, [] => simp [Value.fieldTokens] at h
  | (name, value) :: more, (otherName, other) :: others =>
    simp only [Value.fieldTokens, List.append_assoc, List.cons_append, List.cons.injEq,
      Token.name.injEq, true_and] at h
    obtain ⟨rfl, h⟩ := h
    obtain ⟨rfl, hr⟩ := Value.tokens_inj value other a b _ _ hi.1 ho.1 h
    obtain ⟨rfl, hs⟩ := Value.fieldTokens_inj more others a b last rest _ hi.2 ho.2 hr
    exact ⟨rfl, hs⟩

end

/-- A list between two marks is known from its end, and from its absence. -/
theorem enclosed_inj {α : Type} (first last : Char) (items otherItems : List α)
    (tokens : List α → List Token) (rest others : List Token) (hr : Apart [first] rest)
    (ho : Apart [first] others)
    (inj : tokens items ++ .mark last :: rest = tokens otherItems ++ .mark last :: others →
      items = otherItems ∧ rest = others)
    (h : enclosed first last items tokens ++ rest =
      enclosed first last otherItems tokens ++ others) :
    items = otherItems ∧ rest = others := by
  cases items with
  | nil =>
    cases otherItems with
    | nil => exact ⟨rfl, h⟩
    | cons other more => exact absurd (congrArg List.head? h) (hr first (by simp))
  | cons item more =>
    cases otherItems with
    | nil => exact absurd (congrArg List.head? h.symm) (ho first (by simp))
    | cons other more =>
      apply inj
      simpa [enclosed] using h

theorem apart_enclosed {α : Type} (marks : List Char) (first last : Char) (items : List α)
    (tokens : List α → List Token) (rest : List Token) (hf : first ∉ marks) (h : Apart marks rest) :
    Apart marks (enclosed first last items tokens ++ rest) := by
  cases items with
  | nil => exact h
  | cons item more => exact apart_mark marks first _ hf

theorem argumentTokens_inj (arguments otherArguments : List (String × Value)) (a b : Bool)
    (rest others : List Token) (hf : Value.FieldsFormed a arguments)
    (hg : Value.FieldsFormed b otherArguments) (hr : Apart ['('] rest) (ho : Apart ['('] others)
    (h : argumentTokens arguments ++ rest = argumentTokens otherArguments ++ others) :
    arguments = otherArguments ∧ rest = others :=
  enclosed_inj '(' ')' arguments otherArguments _ rest others hr ho
    (Value.fieldTokens_inj arguments otherArguments a b ')' rest others hf hg) h

theorem apart_directives (marks : List Char) (directives : List Directive) (rest : List Token)
    (hf : '@' ∉ marks) (h : Apart marks rest) :
    Apart marks (directiveTokens directives ++ rest) := by
  cases directives with
  | nil => exact h
  | cons directive more => exact apart_mark marks '@' _ hf

theorem directiveTokens_inj (directives otherDirectives : List Directive) (a b : Bool)
    (rest others : List Token) (hf : DirectivesFormed a directives)
    (hg : DirectivesFormed b otherDirectives) (hr : Apart ['(', '@'] rest)
    (ho : Apart ['(', '@'] others)
    (h : directiveTokens directives ++ rest = directiveTokens otherDirectives ++ others) :
    directives = otherDirectives ∧ rest = others := by
  induction directives generalizing otherDirectives with
  | nil =>
    cases otherDirectives with
    | nil => exact ⟨rfl, h⟩
    | cons other more => exact absurd (congrArg List.head? h) (hr '@' (by simp))
  | cons directive more ih =>
    cases otherDirectives with
    | nil => exact absurd (congrArg List.head? h.symm) (ho '@' (by simp))
    | cons other moreOthers =>
      simp only [directiveTokens, List.flatMap_cons, Directive.tokens, List.cons_append,
        List.append_assoc, List.cons.injEq, true_and, Token.name.injEq] at h
      obtain ⟨hn, h⟩ := h
      have hrest := apart_directives ['('] more rest (by decide) (hr.mono (by simp))
      have hothers := apart_directives ['('] moreOthers others (by decide) (ho.mono (by simp))
      obtain ⟨ha, h⟩ := argumentTokens_inj _ _ a b _ _ (hf directive (by simp))
        (hg other (by simp)) hrest hothers h
      obtain ⟨hm, h⟩ := ih moreOthers (fun d hd => hf d (by simp [hd]))
        (fun d hd => hg d (by simp [hd])) h
      refine ⟨?_, h⟩
      rw [hm, show directive = other from by cases directive; cases other; simp_all]

theorem requiredTokens_inj (required other : Bool) (rest others : List Token)
    (hr : Apart ['!'] rest) (ho : Apart ['!'] others)
    (h : requiredTokens required ++ rest = requiredTokens other ++ others) :
    required = other ∧ rest = others := by
  cases required with
  | false =>
    cases other with
    | false => exact ⟨rfl, h⟩
    | true => exact absurd (congrArg List.head? h) (hr '!' (by simp))
  | true =>
    cases other with
    | false => exact absurd (congrArg List.head? h.symm) (ho '!' (by simp))
    | true => exact ⟨rfl, (List.cons.inj h).2⟩

theorem VariableType.tokens_inj (type other : VariableType) (rest others : List Token)
    (hr : Apart ['!'] rest) (ho : Apart ['!'] others)
    (h : type.tokens ++ rest = other.tokens ++ others) :
    type = other ∧ rest = others := by
  induction type generalizing other rest others with
  | named name required =>
    cases other with
    | named otherName otherRequired =>
      simp only [VariableType.tokens, List.cons_append, List.cons.injEq, Token.name.injEq] at h
      obtain ⟨rfl, h⟩ := h
      obtain ⟨rfl, hend⟩ := requiredTokens_inj _ _ rest others hr ho h
      exact ⟨rfl, hend⟩
    | list item otherRequired => simp [VariableType.tokens] at h
  | list item required ih =>
    cases other with
    | named otherName otherRequired => simp [VariableType.tokens] at h
    | list otherItem otherRequired =>
      simp only [VariableType.tokens, List.cons_append, List.append_assoc, List.cons.injEq,
        true_and] at h
      have hclosing : ∀ rest, Apart ['!'] (.mark ']' :: rest) :=
        fun rest => apart_mark _ _ rest (by decide)
      obtain ⟨rfl, hmark⟩ := ih otherItem _ _ (hclosing _) (hclosing _) h
      obtain ⟨rfl, hend⟩ := requiredTokens_inj _ _ rest others hr ho (List.cons.inj hmark).2
      exact ⟨rfl, hend⟩

theorem apart_default (marks : List Char) (value : Option Value) (rest : List Token)
    (hf : '=' ∉ marks) (h : Apart marks rest) : Apart marks (defaultTokens value ++ rest) := by
  cases value with
  | none => exact h
  | some value => exact apart_mark marks '=' _ hf

theorem defaultTokens_inj (value other : Option Value) (a b : Bool) (rest others : List Token)
    (hv : ∀ v ∈ value, v.Formed a) (hw : ∀ v ∈ other, v.Formed b) (hr : Apart ['='] rest)
    (ho : Apart ['='] others) (h : defaultTokens value ++ rest = defaultTokens other ++ others) :
    value = other ∧ rest = others := by
  cases value with
  | none =>
    cases other with
    | none => exact ⟨rfl, h⟩
    | some value => exact absurd (congrArg List.head? h) (hr '=' (by simp))
  | some value =>
    cases other with
    | none => exact absurd (congrArg List.head? h.symm) (ho '=' (by simp))
    | some other =>
      obtain ⟨rfl, hend⟩ := Value.tokens_inj value other a b rest others (hv value rfl)
        (hw other rfl) (List.cons.inj h).2
      exact ⟨rfl, hend⟩

def variableEnds : List Char := ['!', '=', '@', '(']

theorem Variable.tokens_inj (v other : Variable) (rest others : List Token) (hv : v.Formed)
    (hw : other.Formed) (hr : Apart variableEnds rest) (ho : Apart variableEnds others)
    (h : v.tokens ++ rest = other.tokens ++ others) : v = other ∧ rest = others := by
  obtain ⟨name, type, default, directives⟩ := v
  obtain ⟨otherName, otherType, otherDefault, otherDirectives⟩ := other
  simp only [Variable.tokens, List.cons_append, List.append_assoc, List.cons.injEq, true_and,
    Token.name.injEq] at h
  obtain ⟨rfl, h⟩ := h
  have hafter : ∀ directives rest, Apart variableEnds rest →
      Apart ['!', '='] (directiveTokens directives ++ rest) := fun directives rest hr =>
    apart_directives _ directives rest (by decide) (hr.mono (by simp [variableEnds]))
  have htype : ∀ value directives rest, Apart variableEnds rest →
      Apart ['!'] (defaultTokens value ++ (directiveTokens directives ++ rest)) :=
    fun value directives rest hr =>
      apart_default _ value _ (by decide) ((hafter directives rest hr).mono (by simp))
  obtain ⟨rfl, hd⟩ := VariableType.tokens_inj type otherType _ _ (htype _ _ _ hr) (htype _ _ _ ho) h
  obtain ⟨rfl, hs⟩ := defaultTokens_inj default otherDefault true true _ _ hv.1 hw.1
    ((hafter _ _ hr).mono (by simp)) ((hafter _ _ ho).mono (by simp)) hd
  obtain ⟨rfl, hend⟩ := directiveTokens_inj directives otherDirectives true true rest others hv.2
    hw.2 (hr.mono (by simp [variableEnds])) (ho.mono (by simp [variableEnds])) hs
  exact ⟨rfl, hend⟩

theorem apart_variables (declared : List Variable) (rest : List Token)
    (h : Apart variableEnds rest) :
    Apart variableEnds (declared.flatMap Variable.tokens ++ rest) := by
  cases declared with
  | nil => exact h
  | cons v more => exact apart_mark _ _ _ (by decide)

theorem variableList_inj (declared otherDeclared : List Variable) (rest others : List Token)
    (hv : ∀ v ∈ declared, v.Formed) (hw : ∀ v ∈ otherDeclared, v.Formed)
    (h : declared.flatMap Variable.tokens ++ .mark ')' :: rest =
      otherDeclared.flatMap Variable.tokens ++ .mark ')' :: others) :
    declared = otherDeclared ∧ rest = others := by
  have hclosing : ∀ rest, Apart variableEnds (.mark ')' :: rest) :=
    fun rest => apart_mark _ _ rest (by decide)
  induction declared generalizing otherDeclared with
  | nil =>
    cases otherDeclared with
    | nil => exact ⟨rfl, (List.cons.inj h).2⟩
    | cons other more => simp [Variable.tokens] at h
  | cons v more ih =>
    cases otherDeclared with
    | nil => simp [Variable.tokens] at h
    | cons other moreOthers =>
      rw [List.flatMap_cons, List.flatMap_cons, List.append_assoc, List.append_assoc] at h
      obtain ⟨rfl, hmore⟩ := Variable.tokens_inj v other _ _ (hv v (by simp)) (hw other (by simp))
        (apart_variables more _ (hclosing _)) (apart_variables moreOthers _ (hclosing _)) h
      obtain ⟨rfl, hend⟩ := ih moreOthers (fun v hm => hv v (by simp [hm]))
        (fun v hm => hw v (by simp [hm])) hmore
      exact ⟨rfl, hend⟩

theorem variableTokens_inj (declared otherDeclared : List Variable) (rest others : List Token)
    (hv : ∀ v ∈ declared, v.Formed) (hw : ∀ v ∈ otherDeclared, v.Formed)
    (hr : Apart ['('] rest) (ho : Apart ['('] others)
    (h : variableTokens declared ++ rest = variableTokens otherDeclared ++ others) :
    declared = otherDeclared ∧ rest = others :=
  enclosed_inj '(' ')' declared otherDeclared _ rest others hr ho
    (variableList_inj declared otherDeclared rest others hv hw) h

end QueryBlocks.Query
