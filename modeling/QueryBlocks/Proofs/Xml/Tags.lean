import Mathlib.Data.List.Nodup
import QueryBlocks.Proofs.Xml.Escaping
import QueryBlocks.Xml.Element

/-!
# Tags read back

A tag is written as a name and attributes. The scanner takes exactly that text as the content
of the tag, with or without the slash of an empty element, and the attributes read from it
are the ones that were written, in their order.
-/

set_option autoImplicit false

namespace QueryBlocks.Xml

def isReserved (c : Char) : Bool :=
  isSpace c || ['<', '>', '/', '=', '"', '\'', '!', '?'].contains c

def PlainName (name : List Char) : Prop := name ≠ [] ∧ ∀ c ∈ name, isReserved c = false

instance (name : List Char) : Decidable (PlainName name) :=
  decidable_of_iff (name ≠ [] ∧ name.all (fun c => !isReserved c) = true) (by simp [PlainName])

theorem ne_of_not_reserved {c d : Char} (h : isReserved c = false) (hd : isReserved d = true) :
    c ≠ d := by
  rintro rfl
  rw [h] at hd
  exact Bool.false_ne_true hd

theorem not_space_of_not_reserved {c : Char} (h : isReserved c = false) : isSpace c = false :=
  (Bool.or_eq_false_iff.mp h).1

theorem scanFrom_text (read cs rest : List Char) (h : ∀ c ∈ cs, c ≠ '<') :
    scanFrom (.text read) (cs ++ '<' :: rest) =
      textEvents (cs.reverse ++ read) ++ scanFrom .markup rest := by
  induction cs generalizing read with
  | nil => rfl
  | cons c cs ih =>
    have hc := h c List.mem_cons_self
    rw [List.cons_append, scanFrom]
    · rw [List.reverse_cons, List.append_assoc]
      exact ih (c :: read) fun d hd => h d (List.mem_cons_of_mem _ hd)
    · intro _ _ heq
      exact hc heq

theorem scanFrom_markup (c : Char) (rest : List Char) (hb : c ≠ '!') (hq : c ≠ '?') :
    scanFrom .markup (c :: rest) = scanFrom (.tag none []) (c :: rest) := by
  have hs : stepMode .markup c = stepMode (.tag none []) c := by simp [stepMode, hb, hq]
  simp only [scanFrom, hs]

theorem scanFrom_plain (read cs rest : List Char) (h : ∀ c ∈ cs, c ≠ '>' ∧ c ≠ '"' ∧ c ≠ '\'') :
    scanFrom (.tag none read) (cs ++ rest) = scanFrom (.tag none (cs.reverse ++ read)) rest := by
  induction cs generalizing read with
  | nil => rfl
  | cons c cs ih =>
    obtain ⟨hg, hq, ha⟩ := h c List.mem_cons_self
    have hs : stepMode (.tag none read) c = .goOn (.tag none (c :: read)) := by
      simp [stepMode, stepTag, hg, hq, ha]
    rw [List.cons_append, List.reverse_cons, List.append_assoc]
    simp only [scanFrom, hs]
    exact ih (c :: read) fun d hd => h d (List.mem_cons_of_mem _ hd)

theorem scanFrom_quoted (read cs rest : List Char) (h : ∀ c ∈ cs, c ≠ '"') :
    scanFrom (.tag (some '"') read) (cs ++ '"' :: rest) =
      scanFrom (.tag none ('"' :: (cs.reverse ++ read))) rest := by
  induction cs generalizing read with
  | nil => rfl
  | cons c cs ih =>
    have hs : stepMode (.tag (some '"') read) c = .goOn (.tag (some '"') (c :: read)) := by
      simp [stepMode, stepTag, h c List.mem_cons_self]
    rw [List.cons_append, List.reverse_cons, List.append_assoc]
    simp only [scanFrom, hs]
    exact ih (c :: read) fun d hd => h d (List.mem_cons_of_mem _ hd)

theorem scanFrom_name (read name rest : List Char) (h : PlainName name) :
    scanFrom (.tag none read) (name ++ rest) = scanFrom (.tag none (name.reverse ++ read)) rest :=
  scanFrom_plain read name rest fun c hc =>
    ⟨ne_of_not_reserved (h.2 c hc) rfl, ne_of_not_reserved (h.2 c hc) rfl,
      ne_of_not_reserved (h.2 c hc) rfl⟩

theorem writeAttributes_cons (entry : String × String) (others : Attributes) :
    Element.writeAttributes (entry :: others) =
      ' ' :: (entry.1.toList ++ '=' :: '"' ::
        (escape entry.2.toList ++ '"' :: Element.writeAttributes others)) := by
  obtain ⟨key, value⟩ := entry
  simp [Element.writeAttributes]

theorem scanFrom_attributes (attributes : Attributes) (read rest : List Char)
    (h : ∀ entry ∈ attributes, PlainName entry.1.toList) :
    scanFrom (.tag none read) (Element.writeAttributes attributes ++ rest) =
      scanFrom (.tag none ((Element.writeAttributes attributes).reverse ++ read)) rest := by
  induction attributes generalizing read with
  | nil => rfl
  | cons entry others ih =>
    obtain ⟨key, value⟩ := entry
    have hk := h (key, value) List.mem_cons_self
    have hv : ∀ c ∈ escape value.toList, c ≠ '"' := fun c hc => (escape_ne _ c hc).2.2
    have ho : ∀ entry ∈ others, PlainName entry.1.toList := fun e he =>
      h e (List.mem_cons_of_mem _ he)
    calc scanFrom (.tag none read) (Element.writeAttributes ((key, value) :: others) ++ rest)
        = scanFrom (.tag none (' ' :: read)) (key.toList ++ '=' :: '"' ::
            (escape value.toList ++ '"' :: (Element.writeAttributes others ++ rest))) := by
          simp [writeAttributes_cons, scanFrom, stepMode, stepTag]
      _ = scanFrom (.tag (some '"') ('"' :: '=' :: (key.toList.reverse ++ ' ' :: read)))
            (escape value.toList ++ '"' :: (Element.writeAttributes others ++ rest)) := by
          rw [scanFrom_name _ _ _ hk]
          simp [scanFrom, stepMode, stepTag]
      _ = scanFrom (.tag none ((Element.writeAttributes ((key, value) :: others)).reverse ++ read))
            rest := by
          rw [scanFrom_quoted _ _ _ hv, ih _ ho]
          simp [writeAttributes_cons]

def tagOf (name : String) (attributes : Attributes) : Tag :=
  { content := name.toList ++ Element.writeAttributes attributes }

theorem writeAttributes_getLast (entry : String × String) (others : Attributes) :
    ∃ front, Element.writeAttributes (entry :: others) = front ++ ['"'] := by
  induction others generalizing entry with
  | nil =>
    exact ⟨' ' :: (entry.1.toList ++ '=' :: '"' :: escape entry.2.toList), by
      simp [Element.writeAttributes]⟩
  | cons next others ih =>
    obtain ⟨front, hf⟩ := ih next
    refine ⟨' ' :: (entry.1.toList ++ '=' :: '"' :: escape entry.2.toList ++ '"' :: front), ?_⟩
    rw [writeAttributes_cons, hf]
    simp

theorem tagOf_getLast (name : String) (attributes : Attributes) (h : PlainName name.toList) :
    ∃ front last, (tagOf name attributes).content = front ++ [last] ∧ last ≠ '/' := by
  cases attributes with
  | nil =>
    refine ⟨name.toList.dropLast, name.toList.getLast h.1, ?_,
      ne_of_not_reserved (h.2 _ (List.getLast_mem h.1)) rfl⟩
    simp [tagOf, Element.writeAttributes, List.dropLast_append_getLast h.1]
  | cons entry others =>
    obtain ⟨front, hf⟩ := writeAttributes_getLast entry others
    exact ⟨name.toList ++ front, '"', by simp [tagOf, hf], by decide⟩

theorem tagEvent_of_head (c : Char) (rest : List Char) (hc : c ≠ '/') :
    tagEvent (c :: rest) = match (c :: rest).reverse with
      | '/' :: before => .empty { content := before.reverse }
      | _ => .start { content := c :: rest } := by
  unfold tagEvent
  split
  · rename_i heq
    exact absurd (List.cons.inj heq).1 hc
  · rfl

theorem tagEvent_start (name : String) (attributes : Attributes) (h : PlainName name.toList) :
    tagEvent (tagOf name attributes).content = .start (tagOf name attributes) := by
  obtain ⟨front, last, hl, hne⟩ := tagOf_getLast name attributes h
  obtain ⟨c, rest, hn⟩ := List.exists_cons_of_ne_nil h.1
  have hc : c ≠ '/' := ne_of_not_reserved (h.2 c (by simp [hn])) rfl
  have hh : (tagOf name attributes).content =
      c :: (rest ++ Element.writeAttributes attributes) := by simp [tagOf, hn]
  rw [hh, tagEvent_of_head _ _ hc, ← hh, hl, List.reverse_append]
  split
  · rename_i heq
    exact absurd (List.cons.inj heq).1 hne
  · rw [← hl]

theorem tagEvent_empty (name : String) (attributes : Attributes) (h : PlainName name.toList) :
    tagEvent ((tagOf name attributes).content ++ ['/']) = .empty (tagOf name attributes) := by
  obtain ⟨c, rest, hn⟩ := List.exists_cons_of_ne_nil h.1
  have hc : c ≠ '/' := ne_of_not_reserved (h.2 c (by simp [hn])) rfl
  have hh : (tagOf name attributes).content ++ ['/'] =
      c :: (rest ++ Element.writeAttributes attributes ++ ['/']) := by simp [tagOf, hn]
  rw [hh, tagEvent_of_head _ _ hc, ← hh]
  simp

theorem tagEvent_close (name : List Char) (h : PlainName name) :
    tagEvent ('/' :: name) = .close name := by
  have hl := not_space_of_not_reserved (h.2 _ (List.getLast_mem h.1))
  have ht : (name.reverse.dropWhile isSpace).reverse = name := by
    conv_lhs => rw [← List.dropLast_append_getLast h.1]
    rw [List.reverse_append, List.reverse_singleton, List.singleton_append,
      List.dropWhile_cons_of_neg (by simp [hl]), List.reverse_cons, List.reverse_reverse,
      List.dropLast_append_getLast h.1]
  simp [tagEvent, ht]

theorem tagOf_name (name : String) (attributes : Attributes) (h : PlainName name.toList) :
    (tagOf name attributes).name = name.toList := by
  have hs : ∀ c ∈ name.toList, (!isSpace c) = true := fun c hc => by
    rw [not_space_of_not_reserved (h.2 c hc)]
    rfl
  rw [Tag.name, tagOf, List.takeWhile_append_of_pos hs]
  cases attributes with
  | nil => simp [Element.writeAttributes]
  | cons entry others => simp [writeAttributes_cons, isSpace]

theorem readFrom_key (place start : Nat) (found : Found) (read cs rest : List Char)
    (h : ∀ c ∈ cs, isReserved c = false) :
    readFrom place start found (.key read) (cs ++ rest) =
      readFrom (place + Text.byteLength cs) start found (.key (cs.reverse ++ read)) rest := by
  induction cs generalizing place read with
  | nil => rfl
  | cons c cs ih =>
    have hc := h c List.mem_cons_self
    have he : c ≠ '=' := ne_of_not_reserved hc rfl
    rw [List.cons_append, readFrom]
    simp only [he, not_space_of_not_reserved hc, if_false, Bool.false_eq_true]
    rw [ih _ _ fun d hd => h d (List.mem_cons_of_mem _ hd), Text.byteLength, Nat.add_assoc,
      List.reverse_cons, List.append_assoc, List.singleton_append]

theorem readFrom_value (place start : Nat) (found : Found) (key : String) (read cs rest : List Char)
    (h : ∀ c ∈ cs, c ≠ '"') :
    readFrom place start found (.value key '"' read) (cs ++ rest) =
      readFrom (place + Text.byteLength cs) start found (.value key '"' (cs.reverse ++ read))
        rest := by
  induction cs generalizing place read with
  | nil => rfl
  | cons c cs ih =>
    rw [List.cons_append, readFrom]
    simp only [h c List.mem_cons_self, if_false]
    rw [ih _ _ fun d hd => h d (List.mem_cons_of_mem _ hd), Text.byteLength, Nat.add_assoc,
      List.reverse_cons, List.append_assoc, List.singleton_append]

theorem checkKey_of_absent (found : Found) (start : Nat) (key : String)
    (h : key ∉ found.map fun entry => entry.2.1) : checkKey found start key = .ok () := by
  have hn : found.find? (fun entry => entry.2.1 == key) = none := by
    apply List.find?_eq_none.mpr
    intro entry he hk
    exact h (beq_iff_eq.mp hk ▸ List.mem_map_of_mem he)
  rw [checkKey, hn]

/-- One written attribute is read as an entry of its key and value. -/
theorem readFrom_entry (place start : Nat) (found : Found) (key value : String) (rest : List Char)
    (hk : PlainName key.toList) (hf : key ∉ found.map fun entry => entry.2.1) :
    ∃ next at', readFrom place start found .between
        (' ' :: (key.toList ++ '=' :: '"' :: (escape value.toList ++ '"' :: rest))) =
      readFrom next at' ((at', key, value) :: found) .between rest := by
  obtain ⟨c, cs, hn⟩ := List.exists_cons_of_ne_nil hk.1
  have hc : isReserved c = false := hk.2 c (by simp [hn])
  have hcs : ∀ d ∈ cs, isReserved d = false := fun d hd => hk.2 d (by simp [hn, hd])
  have hv : ∀ d ∈ escape value.toList, d ≠ '"' := fun d hd => (escape_ne _ d hd).2.2
  have hkey : String.ofList (cs.reverse ++ [c]).reverse = key := by
    rw [List.reverse_append, List.reverse_reverse, List.reverse_singleton, List.singleton_append,
      ← hn, String.ofList_toList]
  refine ⟨?_, place + (' ' : Char).utf8Size, ?_⟩
  case refine_2 =>
    rw [hn, List.cons_append, readFrom]
    simp only [show isSpace ' ' = true from rfl, if_true]
    rw [readFrom]
    simp only [not_space_of_not_reserved hc, Bool.false_eq_true, if_false]
    rw [readFrom_key _ _ _ _ _ _ hcs, readFrom]
    simp only [if_true, hkey, checkKey_of_absent found _ key hf]
    change readFrom _ _ _ (.beforeValue key) _ = _
    rw [readFrom]
    simp only [show isSpace '"' = false from rfl, Bool.false_eq_true, if_false, true_or, if_true]
    rw [readFrom_value _ _ _ _ _ _ _ hv, readFrom]
    simp only [if_true, List.append_nil, List.reverse_reverse, unescapeValue_escape]
    rfl

theorem readFrom_attributes (attributes : Attributes) (place start : Nat) (found : Found)
    (hk : ∀ entry ∈ attributes, PlainName entry.1.toList)
    (hd : ((found.map fun entry => entry.2.1) ++ attributes.map Prod.fst).Nodup) :
    readFrom place start found .between (Element.writeAttributes attributes) =
      .ok (found.reverse.map Prod.snd ++ attributes) := by
  induction attributes generalizing place start found with
  | nil => rw [Element.writeAttributes, readFrom, List.append_nil]
  | cons entry others ih =>
    obtain ⟨key, value⟩ := entry
    have hm := List.nodup_middle.mp hd
    have hf : key ∉ found.map fun entry => entry.2.1 := fun h =>
      (List.nodup_cons.mp hm).1 (List.mem_append_left _ h)
    obtain ⟨next, at', he⟩ := readFrom_entry place start found key value
      (Element.writeAttributes others) (hk (key, value) List.mem_cons_self) hf
    have ho := ih next at' ((at', key, value) :: found)
      (fun e h => hk e (List.mem_cons_of_mem _ h)) hm
    rw [writeAttributes_cons, he, ho, List.reverse_cons, List.map_append, List.append_assoc]
    rfl

theorem tagOf_attributes (name : String) (attributes : Attributes) (hn : PlainName name.toList)
    (hk : ∀ entry ∈ attributes, PlainName entry.1.toList)
    (hd : (attributes.map Prod.fst).Nodup) :
    (tagOf name attributes).attributes = .ok attributes := by
  have hdrop : (tagOf name attributes).content.drop (tagOf name attributes).name.length =
      Element.writeAttributes attributes := by
    rw [tagOf_name name attributes hn, tagOf, List.drop_left]
  rw [Tag.attributes, hdrop]
  exact readFrom_attributes attributes _ _ [] hk hd

end QueryBlocks.Xml
