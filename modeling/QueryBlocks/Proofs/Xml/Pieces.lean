import Mathlib.Data.List.Chain
import QueryBlocks.Proofs.Xml.Elements

/-!
# A document in pieces

The text of an element is a sequence of opening tags, closing tags and whole elements without
children. Each piece starts with an opening bracket, ends with a closing one, and has no closing
bracket right before an opening one inside. So where the two meet in a document, one piece ends and
the next begins.
-/

set_option autoImplicit false

namespace QueryBlocks.Xml

inductive Piece where
  | opening (name : String) (attributes : Attributes)
  | closing (name : String)
  | leaf (name : String) (attributes : Attributes) (text : String)

namespace Piece

def chars : Piece → List Char
  | .opening name attributes => '<' :: ((tagOf name attributes).content ++ ['>'])
  | .closing name => '<' :: '/' :: (name.toList ++ ['>'])
  | .leaf name attributes text => (Element.mk name attributes [] text).write

def events : Piece → List Event
  | .opening name attributes => [.start (tagOf name attributes)]
  | .closing name => [.close name.toList]
  | .leaf name attributes text => eventsOf (.mk name attributes [] text)

def Plain : Piece → Prop
  | .opening name attributes => PlainTag name attributes ∧ name ≠ valueElement
  | .closing name => PlainName name.toList
  | .leaf name attributes text => (Element.mk name attributes [] text).Readable

end Piece

mutual

def Element.TextAtLeaves : Element → Prop
  | .mk name _ children text =>
    (children = [] ∨ text = "" ∧ name ≠ valueElement) ∧ AllTextAtLeaves children

def Element.AllTextAtLeaves : List Element → Prop
  | [] => True
  | child :: rest => TextAtLeaves child ∧ AllTextAtLeaves rest

end

mutual

def piecesOf : Element → List Piece
  | .mk name attributes children text =>
    if children.isEmpty then [.leaf name attributes text]
    else .opening name attributes :: (piecesOfAll children ++ [.closing name])

def piecesOfAll : List Element → List Piece
  | [] => []
  | child :: rest => piecesOf child ++ piecesOfAll rest

end

mutual

theorem flatMap_chars (e : Element) (h : e.TextAtLeaves) :
    (piecesOf e).flatMap Piece.chars = e.write := by
  obtain ⟨name, attributes, children, text⟩ := e
  rw [Element.TextAtLeaves] at h
  by_cases hc : children = []
  · subst hc
    simp [piecesOf, Piece.chars]
  · have ht : text = "" := (h.1.resolve_left hc).1
    subst ht
    have hall := flatMap_chars_all children h.2
    simp [piecesOf, Element.write, Piece.chars, hc, hall, tagOf, escape]

theorem flatMap_chars_all (children : List Element) (h : Element.AllTextAtLeaves children) :
    (piecesOfAll children).flatMap Piece.chars = Element.writeAll children := by
  match children, h with
  | [], _ => rfl
  | child :: rest, h =>
    rw [Element.AllTextAtLeaves] at h
    rw [piecesOfAll, Element.writeAll, List.flatMap_append, flatMap_chars child h.1,
      flatMap_chars_all rest h.2]

end

mutual

theorem plain_piecesOf (e : Element) (hr : e.Readable) (h : e.TextAtLeaves) :
    ∀ piece ∈ piecesOf e, piece.Plain := by
  obtain ⟨name, attributes, children, text⟩ := e
  rw [Element.TextAtLeaves] at h
  by_cases hc : children = []
  · subst hc
    simpa [piecesOf, Piece.Plain] using hr
  · rw [Element.Readable] at hr
    have hall := plain_piecesOfAll children hr.2.2 h.2
    intro piece hp
    simp only [piecesOf, List.isEmpty_iff, hc, if_false, List.mem_cons, List.mem_append,
      List.not_mem_nil, or_false] at hp
    rcases hp with rfl | hp | rfl
    · exact ⟨hr.1, (h.1.resolve_left hc).2⟩
    · exact hall piece hp
    · exact hr.1.name

theorem plain_piecesOfAll (children : List Element) (hr : Element.AllReadable children)
    (h : Element.AllTextAtLeaves children) : ∀ piece ∈ piecesOfAll children, piece.Plain := by
  match children, hr, h with
  | [], _, _ => simp [piecesOfAll]
  | child :: rest, hr, h =>
    rw [Element.AllReadable] at hr
    rw [Element.AllTextAtLeaves] at h
    intro piece hp
    rw [piecesOfAll, List.mem_append] at hp
    rcases hp with hp | hp
    · exact plain_piecesOf child hr.1 h.1 piece hp
    · exact plain_piecesOfAll rest hr.2 h.2 piece hp

end

theorem scanFrom_chars (piece : Piece) (rest : List Char) (h : piece.Plain) :
    scanFrom (.text []) (piece.chars ++ rest) =
      piece.events.map .ok ++ scanFrom (.text []) rest := by
  cases piece with
  | opening name attributes =>
    have ho := scanFrom_open name attributes ('>' :: rest) h.1
    rw [scanFrom_tagEnd, List.reverse_reverse, tagEvent_start name attributes h.1.name] at ho
    simpa [Piece.chars, Piece.events, tagOf] using ho
  | closing name => simpa [Piece.chars, Piece.events] using scanFrom_close name.toList rest h
  | leaf name attributes text => exact scanFrom_write _ rest h.wellTagged

def Unbroken (cs : List Char) : Prop := cs.IsChain fun c d => c = '>' → d ≠ '<'

theorem unbroken_of_no_close (cs : List Char) (h : '>' ∉ cs) : Unbroken cs := by
  apply List.isChain_iff_forall_rel_of_append_cons_cons.mpr
  intro c d front back heq hc
  simp [heq, hc] at h

theorem unbroken_of_no_open (cs : List Char) (h : '<' ∉ cs) : Unbroken cs := by
  apply List.isChain_iff_forall_rel_of_append_cons_cons.mpr
  intro c d front back heq hc hd
  simp [heq, hd] at h

theorem unbroken_closed (cs : List Char) (h : '>' ∉ cs) : Unbroken (cs ++ ['>']) := by
  apply List.IsChain.append (unbroken_of_no_close cs h) (List.isChain_singleton _)
  intro c _ d hd _
  simp at hd
  simp [← hd]

theorem writeAttributes_ne (attributes : Attributes)
    (hk : ∀ entry ∈ attributes, PlainName entry.1.toList) (c : Char)
    (hc : c ∈ Element.writeAttributes attributes) : c ≠ '<' ∧ c ≠ '>' := by
  induction attributes with
  | nil => simp [Element.writeAttributes] at hc
  | cons entry others ih =>
    have hkey := hk entry (by simp)
    simp only [writeAttributes_cons, List.mem_cons, List.mem_append] at hc
    rcases hc with rfl | hc | rfl | rfl | hc | rfl | hc
    · decide
    · have hr := hkey.2 c hc
      exact ⟨ne_of_not_reserved hr rfl, ne_of_not_reserved hr rfl⟩
    · decide
    · decide
    · have he := escape_ne _ c hc
      exact ⟨he.1, he.2.1⟩
    · decide
    · exact ih (fun other ho => hk other (by simp [ho])) hc

theorem content_ne (name : String) (attributes : Attributes) (h : PlainTag name attributes)
    (c : Char) (hc : c ∈ (tagOf name attributes).content) : c ≠ '<' ∧ c ≠ '>' := by
  rw [tagOf, List.mem_append] at hc
  rcases hc with hc | hc
  · have hr := h.name.2 c hc
    exact ⟨ne_of_not_reserved hr rfl, ne_of_not_reserved hr rfl⟩
  · exact writeAttributes_ne attributes h.keys c hc

theorem write_leaf (name : String) (attributes : Attributes) (text : String) :
    (Element.mk name attributes [] text).write =
      if text = "" then ('<' :: ((tagOf name attributes).content ++ ['/'])) ++ ['>']
      else ('<' :: (tagOf name attributes).content) ++
        (('>' :: escape text.toList) ++ (('<' :: '/' :: name.toList) ++ ['>'])) := by
  by_cases h : text = ""
  · simp [Element.write, tagOf, h]
  · simp [Element.write, Element.writeAll, tagOf, h]

theorem no_close_content (name : String) (attributes : Attributes) (h : PlainTag name attributes) :
    '>' ∉ '<' :: (tagOf name attributes).content := by
  intro hm
  rcases List.mem_cons.mp hm with hm | hm
  · exact absurd hm (by decide)
  · exact (content_ne name attributes h '>' hm).2 rfl

theorem no_close_name (name : String) (h : PlainName name.toList) :
    '>' ∉ '<' :: '/' :: name.toList := by
  intro hm
  simp only [List.mem_cons] at hm
  rcases hm with hm | hm | hm
  · exact absurd hm (by decide)
  · exact absurd hm (by decide)
  · exact ne_of_not_reserved (h.2 '>' hm) rfl rfl

namespace Piece

theorem bracketed_chars (piece : Piece) : ∃ inner, piece.chars = '<' :: (inner ++ ['>']) := by
  cases piece with
  | opening name attributes => exact ⟨_, rfl⟩
  | closing name => exact ⟨'/' :: name.toList, rfl⟩
  | leaf name attributes text =>
    rw [chars, write_leaf]
    by_cases h : text = ""
    · rw [if_pos h]
      exact ⟨_, rfl⟩
    · rw [if_neg h]
      exact ⟨(tagOf name attributes).content ++ ('>' :: escape text.toList ++
        '<' :: '/' :: name.toList), by simp⟩

theorem unbroken_chars (piece : Piece) (h : piece.Plain) : Unbroken piece.chars := by
  cases piece with
  | opening name attributes =>
    exact unbroken_closed ('<' :: (tagOf name attributes).content)
      (no_close_content name attributes h.1)
  | closing name => exact unbroken_closed ('<' :: '/' :: name.toList) (no_close_name name h)
  | leaf name attributes text =>
    have hp : PlainTag name attributes := h.1
    rw [chars, write_leaf]
    by_cases ht : text = ""
    · rw [if_pos ht]
      apply unbroken_closed
      simpa using no_close_content name attributes hp
    · have htext : escape text.toList ≠ [] := by simpa [escape_eq_nil] using ht
      have hopen := unbroken_of_no_close _ (no_close_content name attributes hp)
      have hclose := unbroken_closed _ (no_close_name name hp.name)
      have hmiddle : Unbroken ('>' :: escape text.toList) := by
        apply unbroken_of_no_open
        intro hm
        rcases List.mem_cons.mp hm with hm | hm
        · exact absurd hm (by decide)
        · exact (escape_ne _ _ hm).1 rfl
      rw [if_neg ht]
      -- the text is not empty, so the bracket that ends the tag does not meet the next one
      apply hopen.append (hmiddle.append hclose _) _
      · intro c hc d _ hclosed
        rw [← List.singleton_append, List.getLast?_append_of_ne_nil _ htext] at hc
        exact absurd hclosed (escape_ne _ c (List.mem_of_getLast? hc)).2.1
      · intro c _ d hd _
        simp at hd
        simp [← hd]

theorem chars_ne_nil (piece : Piece) : piece.chars ≠ [] := by
  obtain ⟨inner, h⟩ := piece.bracketed_chars
  simp [h]

end Piece

def Bracketed (cs : List Char) : Prop := cs.head? = some '<' ∧ cs.getLast? = some '>'

def Resumes (cs : List Char) : Prop := cs = [] ∨ cs.head? = some '<'

/-- A document can be cut between a closing and an opening bracket only where its pieces meet. -/
theorem cut_between_pieces (pieces : List Piece) (front back : List Char)
    (hp : ∀ piece ∈ pieces, piece.Plain) (hf : front.getLast? = some '>') (hb : Resumes back)
    (h : pieces.flatMap Piece.chars = front ++ back) :
    ∃ before after, pieces = before ++ after ∧ before.flatMap Piece.chars = front ∧
      after.flatMap Piece.chars = back := by
  induction pieces generalizing front with
  | nil =>
    have hn : front = [] := (List.append_eq_nil_iff.mp h.symm).1
    simp [hn] at hf
  | cons piece pieces ih =>
    rw [List.flatMap_cons, List.append_eq_append_iff] at h
    rcases h with ⟨more, hfront, hrest⟩ | ⟨more, hpiece, hback⟩
    · by_cases hm : more = []
      · subst hm
        exact ⟨[piece], pieces, rfl, by simpa using hfront.symm, by simpa using hrest⟩
      · rw [hfront, List.getLast?_append_of_ne_nil _ hm] at hf
        obtain ⟨before, after, hs, hbefore, hafter⟩ :=
          ih more (fun other ho => hp other (by simp [ho])) hf hrest
        exact ⟨piece :: before, after, by simp [hs], by simp [hbefore, hfront], hafter⟩
    · by_cases hm : more = []
      · subst hm
        exact ⟨[piece], pieces, rfl, by simpa using hpiece, by simpa using hback.symm⟩
      · -- the cut would be inside of the piece
        have hunbroken := piece.unbroken_chars (hp piece (by simp))
        rw [hpiece] at hunbroken
        have hopen : more.head? = some '<' := by
          obtain ⟨c, tail, rfl⟩ := List.exists_cons_of_ne_nil hm
          simpa [Resumes, hback] using hb
        exact absurd rfl ((List.isChain_append.mp hunbroken).2.2 '>' hf '<' hopen rfl)

end QueryBlocks.Xml
