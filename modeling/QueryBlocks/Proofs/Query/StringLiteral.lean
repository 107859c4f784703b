import QueryBlocks.Proofs.Query.Literals

/-!
# String literals stay closed

The rules for an ordinary string literal, apart from the scanner: a character stands for itself,
behind a backslash, or as a code of four digits. The literal of a bound text can be read by these
rules in one way only, and that way ends where the literal ends.
-/

set_option autoImplicit false

namespace QueryBlocks.Query

/-- A character that may stand for itself: no quotation mark, no backslash and no control
character. The line ends are control characters. -/
def StandsForItself (c : Char) : Prop :=
  c ≠ '"' ∧ c ≠ '\\' ∧ 0x20 ≤ c.toNat ∧ ¬(0x7F ≤ c.toNat ∧ c.toNat ≤ 0x9F)

inductive Spelling : List Char → Char → Prop where
  | plain (c : Char) (h : StandsForItself c) : Spelling [c] c
  | escape (c d : Char) (h : unescape c = some d) : Spelling ['\\', c] d
  | code (digits : List Char) (c : Char) (hl : digits.length = 4)
      (h : Text.readInBase 16 digits = some c.toNat) : Spelling ('\\' :: 'u' :: digits) c

inductive Spelled : List Char → List Char → Prop where
  | nil : Spelled [] []
  | cons (spelling : List Char) (c : Char) (body text : List Char) (h : Spelling spelling c)
      (rest : Spelled body text) : Spelled (spelling ++ body) (c :: text)

/-- An ordinary string literal stands in front, with its value and with what is left behind it. No
third quotation mark follows on an empty literal. -/
def StringAhead (input : List Char) (value : String) (left : List Char) : Prop :=
  ∃ body, input = '"' :: (body ++ '"' :: left) ∧ Spelled body value.toList ∧
    (body = [] → left.head? ≠ some '"')

def BlockAhead (input : List Char) : Prop := ['"', '"', '"'] <+: input

theorem readInBase_code (c : Char) (h : c.toNat < 256) :
    Text.readInBase 16 ['0', '0', Literal.upperHex (c.toNat / 16),
      Literal.upperHex (c.toNat % 16)] = some c.toNat := by
  have hzero : Text.baseDigit 16 '0' = some 0 := by decide
  have hdigit : ∀ n < 16, Text.baseDigit 16 (Literal.upperHex n) = some n := by decide
  have hhigh := hdigit (c.toNat / 16) (by omega)
  have hlow := hdigit (c.toNat % 16) (by omega)
  have hsum : 16 * (c.toNat / 16) + c.toNat % 16 = c.toNat := Nat.div_add_mod _ _
  simp [Text.readInBase, hzero, hhigh, hlow, hsum]

theorem spelling_escapeInQuery (c : Char) : Spelling (Literal.escapeInQuery c) c := by
  unfold Literal.escapeInQuery
  split_ifs with hquote hback hline hreturn htab hcontrol
  · subst hquote
    exact .escape '"' '"' rfl
  · subst hback
    exact .escape '\\' '\\' rfl
  · subst hline
    exact .escape 'n' '\n' rfl
  · subst hreturn
    exact .escape 'r' '\r' rfl
  · subst htab
    exact .escape 't' '\t' rfl
  · have hc : c.toNat < 256 := by
      simp only [Text.isControl, Bool.or_eq_true, Bool.and_eq_true, decide_eq_true_eq] at hcontrol
      omega
    exact .code _ c rfl (readInBase_code c hc)
  · simp only [Text.isControl, Bool.or_eq_true, Bool.and_eq_true, decide_eq_true_eq] at hcontrol
    exact .plain c ⟨hquote, hback, by omega, by omega⟩

theorem spelled_escapeInQuery (text : List Char) :
    Spelled (text.flatMap Literal.escapeInQuery) text := by
  induction text with
  | nil => exact .nil
  | cons c text ih =>
    rw [List.flatMap_cons]
    exact .cons _ c _ text (spelling_escapeInQuery c) ih

/-- No spelling is the beginning of another one. -/
theorem spelling_cut (first second more others : List Char) (a b : Char) (ha : Spelling first a)
    (hb : Spelling second b) (h : first ++ more = second ++ others) :
    a = b ∧ more = others := by
  have hu : unescape 'u' = none := by decide
  cases ha with
  | plain _ ha =>
    cases hb with
    | plain _ hb => simpa using h
    | escape c _ hb => exact absurd (List.cons.inj h).1 ha.2.1
    | code digits _ hl hb => exact absurd (List.cons.inj h).1 ha.2.1
  | escape c _ ha =>
    cases hb with
    | plain _ hb => exact absurd (List.cons.inj h).1.symm hb.2.1
    | escape d _ hb =>
      simp only [List.cons_append, List.nil_append, List.cons.injEq, true_and] at h
      rw [h.1, hb] at ha
      exact ⟨(Option.some.inj ha).symm, h.2⟩
    | code digits _ hl hb =>
      simp only [List.cons_append, List.nil_append, List.cons.injEq, true_and] at h
      rw [h.1, hu] at ha
      cases ha
  | code digits _ hl ha =>
    cases hb with
    | plain _ hb => exact absurd (List.cons.inj h).1.symm hb.2.1
    | escape d _ hb =>
      simp only [List.cons_append, List.nil_append, List.cons.injEq, true_and] at h
      rw [← h.1, hu] at hb
      cases hb
    | code others _ hm hb =>
      simp only [List.cons_append, List.cons.injEq, true_and] at h
      obtain ⟨rfl, hrest⟩ := List.append_inj h (hl.trans hm.symm)
      rw [hb] at ha
      exact ⟨Char.toNat_inj.mp (Option.some.inj ha).symm, hrest⟩

theorem spelling_head (spelling : List Char) (c : Char) (h : Spelling spelling c) :
    ∃ first more, spelling = first :: more ∧ first ≠ '"' := by
  cases h with
  | plain _ h => exact ⟨c, [], rfl, h.1⟩
  | escape d _ h => exact ⟨'\\', [d], rfl, by decide⟩
  | code digits _ hl h => exact ⟨'\\', 'u' :: digits, rfl, by decide⟩

/-- Only the empty text has nothing between the quotation marks, and what is there begins with no
quotation mark. -/
theorem spelled_head (body text : List Char) (h : Spelled body text) :
    body = [] ∧ text = [] ∨ ∃ first more, body = first :: more ∧ first ≠ '"' := by
  cases h with
  | nil => exact .inl ⟨rfl, rfl⟩
  | cons spelling c body text h rest =>
    obtain ⟨first, more, rfl, hne⟩ := spelling_head spelling c h
    exact .inr ⟨first, more ++ body, rfl, hne⟩

/-- The quotation mark that ends a literal is the first that no spelling takes in. -/
theorem spelled_cut (body text : List Char) (hb : Spelled body text) (other value : List Char)
    (ho : Spelled other value) (left rest : List Char)
    (h : body ++ '"' :: left = other ++ '"' :: rest) : text = value ∧ left = rest := by
  induction hb generalizing other value with
  | nil =>
    rcases spelled_head other value ho with ⟨rfl, rfl⟩ | ⟨first, more, rfl, hne⟩
    · exact ⟨rfl, (List.cons.inj h).2⟩
    · exact absurd (List.cons.inj h).1.symm hne
  | cons spelling c body text hs hb ih =>
    cases ho with
    | nil =>
      obtain ⟨first, more, rfl, hne⟩ := spelling_head spelling c hs
      exact absurd (List.cons.inj h).1 hne
    | cons next d other value hn ho =>
      rw [List.append_assoc, List.append_assoc] at h
      obtain ⟨rfl, hmore⟩ := spelling_cut spelling next _ _ c d hs hn h
      obtain ⟨rfl, hleft⟩ := ih other value ho hmore
      exact ⟨rfl, hleft⟩

/-- The literal of a text, in front of anything, is read as that text and leaves what it stands in
front of, and there is no other way to read it; nor is it the beginning of a block string. Only a
quotation mark right behind the literal of the empty text is ruled out. -/
theorem stringAhead_quoteInQuery (s : String) (rest : List Char)
    (h : s = "" → rest.head? ≠ some '"') :
    (∀ value left, StringAhead ((Literal.quoteInQuery s).toList ++ rest) value left ↔
      value = s ∧ left = rest) ∧
    ¬BlockAhead ((Literal.quoteInQuery s).toList ++ rest) := by
  have hinput : (Literal.quoteInQuery s).toList ++ rest =
      '"' :: (s.toList.flatMap Literal.escapeInQuery ++ '"' :: rest) := by
    simp [Literal.quoteInQuery]
  have hspelled := spelled_escapeInQuery s.toList
  have hbehind : s.toList.flatMap Literal.escapeInQuery = [] → rest.head? ≠ some '"' := by
    intro hnil
    rcases spelled_head _ _ hspelled with ⟨-, hs⟩ | ⟨first, more, hbody, -⟩
    · exact h (String.toList_eq_nil_iff.mp hs)
    · simp [hbody] at hnil
  rw [hinput]
  constructor
  · intro value left
    constructor
    · rintro ⟨body, heq, hbody, -⟩
      obtain ⟨hvalue, hleft⟩ :=
        spelled_cut body _ hbody _ _ hspelled left rest (List.cons.inj heq).2.symm
      exact ⟨String.toList_inj.mp hvalue, hleft⟩
    · rintro ⟨rfl, rfl⟩
      exact ⟨_, rfl, hspelled, hbehind⟩
  · rintro ⟨more, hmore⟩
    have hmarks := (List.cons.inj hmore).2
    rcases spelled_head _ _ hspelled with ⟨hbody, -⟩ | ⟨first, others, hbody, hne⟩
    · rw [hbody] at hmarks
      exact hbehind hbody (by simp [← (List.cons.inj hmarks).2])
    · rw [hbody] at hmarks
      exact hne (List.cons.inj hmarks).1.symm

theorem stringAhead_quoteInQuery_empty :
    ([')'] : List Char).head? ≠ some '"' ∧
    (∀ value left, StringAhead ((Literal.quoteInQuery "").toList ++ [')']) value left ↔
      value = "" ∧ left = [')']) ∧
    StringAhead ((Literal.quoteInQuery "a\\\"\n\x85").toList ++ ['"']) "a\\\"\n\x85" ['"'] :=
  ⟨by decide, (stringAhead_quoteInQuery "" [')'] fun _ => by decide).1,
    ((stringAhead_quoteInQuery "a\\\"\n\x85" ['"'] (by decide)).1 _ _).mpr ⟨rfl, rfl⟩⟩

end QueryBlocks.Query
