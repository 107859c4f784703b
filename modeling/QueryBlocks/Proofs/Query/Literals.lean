import Mathlib.Data.Bool.AllAny
import Mathlib.Tactic.SplitIfs
import QueryBlocks.Plan.Literal
import QueryBlocks.Proofs.Number.Layout
import QueryBlocks.Proofs.Query.Token

/-!
# Literals of bound values

Every literal of a bound value is one token of the query language: a string literal holds the
text that it was made from, and a finite number is an integer or has a fraction.
-/

set_option autoImplicit false

namespace QueryBlocks.Query

/-- What parts tokens belongs to no name, number or string. -/
theorem apart_plain (c : Char) (h : scanner.apart c = true) :
    isNamePart c = false ∧ c ≠ '.' ∧ c ≠ '"' ∧ c ≠ '+' ∧ c ≠ '-' := by
  have hmem : c ∈ " \t\n\r,\ufeff".toList ∨ c ∈ "!$&():=@[]\x7b|\x7d".toList :=
    (Bool.or_eq_true_iff.mp h).imp List.contains_iff_mem.mp List.contains_iff_mem.mp
  clear h
  rcases hmem with hm | hm
  · revert c
    exact List.all_iff_forall_prop.mp (by decide)
  · revert c
    exact List.all_iff_forall_prop.mp (by decide)

theorem namePart_within (c : Char) (h : isNamePart c = true) :
    isIgnored c = false ∧ isMark c = false := by
  apply Bool.or_eq_false_iff.mp
  apply Bool.eq_false_iff.mpr
  intro ha
  rw [(apart_plain c ha).1] at h
  exact Bool.false_ne_true h

theorem begin?_nameStart (c : Char) (h : isNameStart c = true) :
    begin? c = some ([], .name [c]) := by
  obtain ⟨hi, hm⟩ := namePart_within c (by simp [isNamePart, h])
  simp [begin?, hi, hm, h]

theorem digit_not_nameStart (c : Char) (h : c.isDigit = true) : isNameStart c = false := by
  have hall : ∀ n < 58, 48 ≤ n → isNameStart (Char.ofNat n) = false := by decide
  obtain ⟨hl, hu⟩ := Char.isDigit_iff_toNat.mp h
  rw [← Char.ofNat_toNat c]
  exact hall c.toNat (Nat.lt_succ_of_le hu) hl

theorem isName_chars (name : String) (h : isName name = true) :
    ∃ first rest, name.toList = first :: rest ∧ isNameStart first = true ∧
      ∀ c ∈ rest, isNamePart c = true := by
  unfold isName at h
  cases hn : name.toList with
  | nil =>
    rw [hn] at h
    exact absurd h Bool.false_ne_true
  | cons first rest =>
    rw [hn] at h
    obtain ⟨hf, hm⟩ := Bool.and_eq_true_iff.mp h
    exact ⟨first, rest, rfl, hf, List.all_eq_true.mp hm⟩

/-- A name is one token. -/
theorem scans_name (name : String) (h : isName name = true) :
    scanner.Scans name.toList [.name name] := by
  obtain ⟨first, more, hn, hf, hm⟩ := isName_chars name h
  have hname : String.ofList (first :: more) = name := by rw [← hn, String.ofList_toList]
  rw [hn]
  apply scanner.scans_run .name
  · exact begin?_nameStart first hf
  · intro text c hc
    simp [scanner, scanChar, hm c hc]
  · intro c hc
    simp [scanner, scanChar, (apart_plain c hc).1, endWith, hname]
  · simp [scanner, scanEnd, hname]

theorem next_apart (stage : Stage) (c : Char) (h : scanner.apart c = true) :
    stage.next c = none := by
  obtain ⟨hpart, hpoint, -, hplus, hminus⟩ := apart_plain c h
  have hd : c.isDigit = false := by simp_all [isNamePart]
  have hz : c ≠ '0' := by
    intro he
    rw [he] at hd
    exact Bool.false_ne_true hd.symm
  have he : c ≠ 'e' := by
    intro he
    rw [he] at hpart
    exact Bool.false_ne_true hpart.symm
  have hE : c ≠ 'E' := by
    intro he
    rw [he] at hpart
    exact Bool.false_ne_true hpart.symm
  cases stage <;>
    simp [Stage.next, Stage.next.afterWhole, Stage.next.afterDigits, hz, he, hE, hd, hpoint, hplus,
      hminus]

/-- A number that may end where a token is parted from the next is one token. -/
theorem scan_number (stage : Stage) (text : List Char) (token : Token) (rest : List Char)
    (ht : stage.token? text = some token) (hr : scanner.Delimited rest) :
    scanner.scan (.number stage text) rest =
      (scanner.scan scanner.start rest).map (token :: ·) := by
  have hend : ∀ c, scanner.apart c = true → scanner.step (.number stage text) c =
      (scanner.step scanner.start c).map fun found => (token :: found.1, found.2) := by
    intro c hc
    obtain ⟨hpart, hpoint, -⟩ := apart_plain c hc
    simp [scanner, scanChar, next_apart stage c hc, hpart, hpoint, ht, endWith]
  exact scanner.scan_release _ _ rest hend (by simp [scanner, scanEnd, ht]) hr

def digitsFrom (negative : Bool) : Place := if negative then .number .sign ['-'] else .between

theorem scan_sign (negative : Bool) (text : List Char) :
    scanner.scan scanner.start (Binary64.signText negative ++ text) =
      scanner.scan (digitsFrom negative) text := by
  cases negative with
  | false => rfl
  | true => exact scanner.scan_within _ _ '-' text rfl

def wholeStage (first : Char) : Stage := if first = '0' then .zero else .whole

theorem begin?_digit (c : Char) (h : c.isDigit = true) :
    begin? c = some ([], .number (wholeStage c) [c]) := by
  have hne : ∀ d, d.isDigit = false → c ≠ d := by
    intro d hd he
    rw [he, hd] at h
    exact Bool.false_ne_true h
  obtain ⟨hi, hm⟩ := namePart_within c (by simp [isNamePart, h])
  have hs := digit_not_nameStart c h
  have hq : c ≠ '"' := hne '"' rfl
  have hminus : c ≠ '-' := hne '-' rfl
  unfold begin? wholeStage
  rw [hi, hm, hs]
  simp only [Bool.false_eq_true, if_false, hq, hminus, h, if_true]
  split_ifs <;> rfl

theorem step_firstDigit (negative : Bool) (c : Char) (h : c.isDigit = true) :
    scanner.step (digitsFrom negative) c =
      some ([], .number (wholeStage c) (Binary64.signText negative ++ [c])) := by
  cases negative with
  | false => exact begin?_digit c h
  | true =>
    unfold wholeStage
    split_ifs with hz <;>
      simp [scanner, digitsFrom, scanChar, Stage.next, hz, h, Binary64.signText]

/-- The digits of a whole number lead to a stage where the number may end or have a point. -/
theorem scan_whole (negative : Bool) (digits rest : List Char) (hw : Decimal.Whole digits) :
    ∃ stage, (stage = .zero ∨ stage = .whole) ∧
      scanner.scan (digitsFrom negative) (digits ++ rest) =
        scanner.scan (.number stage (Binary64.signText negative ++ digits)) rest := by
  rcases hw.head with rfl | ⟨first, more, rfl, hne⟩
  · exact ⟨.zero, Or.inl rfl, scanner.scan_within _ _ '0' rest (step_firstDigit negative '0' rfl)⟩
  · refine ⟨.whole, Or.inr rfl, ?_⟩
    have hfirst := step_firstDigit negative first (hw.digit first (by simp))
    have hmore : ∀ text, ∀ c ∈ more,
        scanner.step (.number .whole text) c = some ([], .number .whole (text ++ [c])) := by
      intro text c hc
      simp [scanner, scanChar, Stage.next, hw.digit c (by simp [hc])]
    rw [wholeStage, if_neg hne] at hfirst
    rw [List.cons_append, scanner.scan_within _ _ first _ hfirst,
      scanner.scan_collect (.number .whole) _ more rest hmore, List.append_assoc,
      List.singleton_append]

theorem scan_fraction (stage : Stage) (text fraction rest : List Char)
    (hs : stage = .zero ∨ stage = .whole) (hf : ∀ c ∈ fraction, c.isDigit = true)
    (hne : fraction ≠ []) :
    scanner.scan (.number stage text) ('.' :: fraction ++ rest) =
      scanner.scan (.number .fraction (text ++ '.' :: fraction)) rest := by
  have hpoint : scanner.step (.number stage text) '.' =
      some ([], .number .point (text ++ ['.'])) := by
    rcases hs with rfl | rfl <;> rfl
  cases fraction with
  | nil => exact absurd rfl hne
  | cons c more =>
    have hfirst : scanner.step (.number .point (text ++ ['.'])) c =
        some ([], .number .fraction (text ++ ['.'] ++ [c])) := by
      simp [scanner, scanChar, Stage.next, hf c (by simp)]
    have hmore : ∀ text, ∀ d ∈ more,
        scanner.step (.number .fraction text) d = some ([], .number .fraction (text ++ [d])) := by
      intro text d hd
      simp [scanner, scanChar, Stage.next, hf d (by simp [hd])]
    rw [List.cons_append, List.cons_append, scanner.scan_within _ _ '.' _ hpoint,
      scanner.scan_within _ _ c _ hfirst,
      scanner.scan_collect (.number .fraction) _ more rest hmore]
    simp only [List.append_assoc, List.cons_append, List.nil_append]

/-- The literal of a finite number is one token, with a fraction or without. -/
theorem scans_finite (negative : Bool) (magnitude : List Char) (h : Decimal.Layout magnitude) :
    scanner.Scans (Binary64.signText negative ++ magnitude)
        [.int (String.ofList (Binary64.signText negative ++ magnitude))] ∨
      scanner.Scans (Binary64.signText negative ++ magnitude)
        [.float (String.ofList (Binary64.signText negative ++ magnitude))] := by
  cases h with
  | whole digits hw =>
    refine Or.inl fun rest hr => ?_
    obtain ⟨stage, hs, he⟩ := scan_whole negative magnitude rest hw
    rw [List.append_assoc, scan_sign, he]
    rcases hs with rfl | rfl <;> exact scan_number _ _ _ rest rfl hr
  | point digits fraction hw hf hne =>
    refine Or.inr fun rest hr => ?_
    obtain ⟨stage, hs, he⟩ := scan_whole negative digits ('.' :: fraction ++ rest) hw
    rw [List.append_assoc, scan_sign, List.append_assoc, he,
      scan_fraction stage _ fraction rest hs hf hne, List.append_assoc]
    exact scan_number _ _ _ rest rfl hr

theorem hexValue_upperHex (n : Nat) (h : n < 16) : Text.hexValue (Literal.upperHex n) = some n := by
  revert n
  decide

theorem addCode_char (text : List Char) (c : Char) :
    addCode text c.toNat = some (.string (text ++ [c])) := by
  have hv : c.toNat.isValidChar := c.valid
  rw [addCode, if_pos hv, Char.ofNat_toNat]

theorem scan_backslash (text rest : List Char) (c d : Char) (hu : c ≠ 'u')
    (h : unescape c = some d) :
    scanner.scan (.string text) ('\\' :: c :: rest) =
      scanner.scan (.string (text ++ [d])) rest := by
  have hs : scanner.step (.escape text) c = some ([], .string (text ++ [d])) := by
    simp [scanner, scanChar, hu, h]
  rw [scanner.scan_within (.string text) (.escape text) '\\' _ rfl,
    scanner.scan_within _ _ c rest hs]

theorem scan_code (text rest : List Char) (digits value : Nat) (c : Char) (place : Place)
    (h : scanCode text none digits value c = some place) :
    scanner.scan (.code text none digits value) (c :: rest) = scanner.scan place rest := by
  apply scanner.scan_within
  simp [scanner, scanChar, h]

/-- A control character comes back from its code. -/
theorem scan_unicodeEscape (text rest : List Char) (c : Char) (h : Text.isControl c = true) :
    scanner.scan (.string text) (Literal.unicodeEscape c ++ rest) =
      scanner.scan (.string (text ++ [c])) rest := by
  have hc : c.toNat < 256 := by
    simp only [Text.isControl, Bool.or_eq_true, Bool.and_eq_true, decide_eq_true_eq] at h
    omega
  have hhigh : scanCode text none 2 0 (Literal.upperHex (c.toNat / 16)) =
      some (.code text none 3 (c.toNat / 16)) := by
    simp [scanCode, hexValue_upperHex (c.toNat / 16) (by omega)]
  have hlow : scanCode text none 3 (c.toNat / 16) (Literal.upperHex (c.toNat % 16)) =
      some (.string (text ++ [c])) := by
    have hv : 16 * (c.toNat / 16) + c.toNat % 16 = c.toNat := Nat.div_add_mod _ _
    have hs : ¬(0xD800 ≤ c.toNat ∧ c.toNat < 0xDC00) := by omega
    simp [scanCode, hexValue_upperHex (c.toNat % 16) (by omega), hv, endCode, hs, addCode_char]
  rw [Literal.unicodeEscape, List.cons_append,
    scanner.scan_within (.string text) (.escape text) '\\' _ rfl, List.cons_append,
    scanner.scan_within (.escape text) (.code text none 0 0) 'u' _ rfl]
  simp only [List.cons_append, List.nil_append]
  rw [scan_code text _ 0 0 '0' (.code text none 1 0) rfl,
    scan_code text _ 1 0 '0' (.code text none 2 0) rfl, scan_code text _ 2 0 _ _ hhigh,
    scan_code text _ 3 _ _ _ hlow]

theorem scan_escapeInQuery (text rest : List Char) (c : Char) :
    scanner.scan (.string text) (Literal.escapeInQuery c ++ rest) =
      scanner.scan (.string (text ++ [c])) rest := by
  unfold Literal.escapeInQuery
  split_ifs with hquote hback hline hreturn htab hcontrol
  · subst hquote
    exact scan_backslash text rest '"' '"' (by decide) rfl
  · subst hback
    exact scan_backslash text rest '\\' '\\' (by decide) rfl
  · subst hline
    exact scan_backslash text rest 'n' '\n' (by decide) rfl
  · subst hreturn
    exact scan_backslash text rest 'r' '\r' (by decide) rfl
  · subst htab
    exact scan_backslash text rest 't' '\t' (by decide) rfl
  · exact scan_unicodeEscape text rest c hcontrol
  · have hs : scanner.step (.string text) c = some ([], .string (text ++ [c])) := by
      simp [scanner, scanChar, scanString, hquote, hback, isLineEnd, hline, hreturn]
    rw [List.singleton_append, scanner.scan_within _ _ c rest hs]

/-- The characters of a literal, up to the quotation mark that ends it, hold the text. -/
theorem scan_literalEnd (text rest : List Char) :
    scanner.scan (.string []) (text.flatMap Literal.escapeInQuery ++ '"' :: rest) =
      (scanner.scan scanner.start rest).map (Token.string (String.ofList text) :: ·) := by
  rw [scanner.scan_encoded .string Literal.escapeInQuery [] text _
      (fun text c rest => scan_escapeInQuery text rest c), List.nil_append,
    scanner.scan_cons _ scanner.start '"' rest [.string (String.ofList text)] rfl]
  rfl

theorem escapeInQuery_head (c : Char) :
    ∃ first more, Literal.escapeInQuery c = first :: more ∧ first ≠ '"' := by
  unfold Literal.escapeInQuery
  split_ifs with hquote
  · exact ⟨_, _, rfl, by decide⟩
  · exact ⟨_, _, rfl, by decide⟩
  · exact ⟨_, _, rfl, by decide⟩
  · exact ⟨_, _, rfl, by decide⟩
  · exact ⟨_, _, rfl, by decide⟩
  · exact ⟨_, _, rfl, by decide⟩
  · exact ⟨_, _, rfl, hquote⟩

/-- Behind its quotation mark, the literal of a text that is not empty goes on as a string. -/
theorem scan_quote (text rest : List Char) (h : text ≠ []) :
    scanner.scan .quote (text.flatMap Literal.escapeInQuery ++ rest) =
      scanner.scan (.string []) (text.flatMap Literal.escapeInQuery ++ rest) := by
  cases text with
  | nil => exact absurd rfl h
  | cons c more =>
    obtain ⟨first, others, he, hne⟩ := escapeInQuery_head c
    have hstep : scanner.step .quote first = scanner.step (.string []) first := by
      simp [scanner, scanChar, hne]
    rw [List.flatMap_cons, he, List.cons_append, List.cons_append, Scanner.scan, Scanner.scan,
      hstep]

/-- A string literal is one token that holds the text. No quotation mark may follow it, as an
empty literal would then begin a block. -/
theorem scans_quoteInQuery (s : String) :
    scanner.Scans (Literal.quoteInQuery s).toList [.string s] := by
  intro rest hr
  have hs : String.ofList s.toList = s := String.ofList_toList
  rw [Literal.quoteInQuery, String.toList_ofList, List.append_assoc, List.cons_append,
    scanner.scan_within scanner.start .quote '"' _ rfl, List.singleton_append]
  by_cases ht : s.toList = []
  · have hend : ∀ c, scanner.apart c = true → scanner.step .quotes c =
        (scanner.step scanner.start c).map fun found => (Token.string "" :: found.1, found.2) := by
      intro c hc
      simp [scanner, scanChar, (apart_plain c hc).2.2.1, endWith]
    rw [ht, List.flatMap_nil, List.nil_append, scanner.scan_within .quote .quotes '"' _ rfl,
      scanner.scan_release _ (.string "") rest hend rfl hr, ← hs, ht]
    rfl
  · rw [scan_quote _ _ ht, scan_literalEnd, hs]
    rfl

end QueryBlocks.Query
