import QueryBlocks.Proofs.Xml.Tags

/-!
# Elements survive writing and reading

The text of an element is scanned into the events of its tags and texts, the end tags match,
and the stack of open elements puts the element together again. Texts that are all blank are
kept in value elements only, so an element comes back whole if no other element has one.
-/

set_option autoImplicit false

namespace QueryBlocks.Xml

structure PlainTag (name : String) (attributes : Attributes) : Prop where
  name : PlainName name.toList
  keys : ∀ entry ∈ attributes, PlainName entry.1.toList
  distinct : (attributes.map Prod.fst).Nodup

instance (name : String) (attributes : Attributes) : Decidable (PlainTag name attributes) :=
  decidable_of_iff (PlainName name.toList ∧ (∀ entry ∈ attributes, PlainName entry.1.toList) ∧
    (attributes.map Prod.fst).Nodup) ⟨fun ⟨a, b, c⟩ => ⟨a, b, c⟩, fun ⟨a, b, c⟩ => ⟨a, b, c⟩⟩

/-- A text that an element of the name keeps when it is read. -/
def KeptText (name text : String) : Prop :=
  text = "" ∨ name = valueElement ∨ Text.allBlank text = false

mutual

def Element.Readable : Element → Prop
  | .mk name attributes children text =>
    PlainTag name attributes ∧ KeptText name text ∧ AllReadable children

def Element.AllReadable : List Element → Prop
  | [] => True
  | child :: rest => Readable child ∧ AllReadable rest

end

mutual

def Element.WellTagged : Element → Prop
  | .mk name attributes children _ => PlainTag name attributes ∧ AllWellTagged children

def Element.AllWellTagged : List Element → Prop
  | [] => True
  | child :: rest => WellTagged child ∧ AllWellTagged rest

end

def keptPiece (name piece : String) : String :=
  if name = valueElement ∨ ¬Text.allBlank piece then piece else ""

theorem keptPiece_eq_iff (name text : String) :
    keptPiece name text = text ↔ KeptText name text := by
  unfold keptPiece KeptText
  by_cases hn : name = valueElement
  · simp [hn]
  · cases hb : Text.allBlank text <;> simp [hn, eq_comm]

mutual

def Element.kept : Element → Element
  | .mk name attributes children text =>
    .mk name attributes (keptAll children) (keptPiece name text)

def Element.keptAll : List Element → List Element
  | [] => []
  | child :: rest => kept child :: keptAll rest

end

mutual

def Element.KeepsTexts : Element → Prop
  | .mk name _ children text => KeptText name text ∧ AllKeepTexts children

def Element.AllKeepTexts : List Element → Prop
  | [] => True
  | child :: rest => KeepsTexts child ∧ AllKeepTexts rest

end

mutual

theorem readable_iff (e : Element) : e.Readable ↔ e.WellTagged ∧ e.KeepsTexts := by
  match e with
  | .mk name attributes children text =>
    rw [Element.Readable, Element.WellTagged, Element.KeepsTexts, allReadable_iff children,
      and_assoc, and_left_comm (b := Element.AllWellTagged children)]

theorem allReadable_iff (children : List Element) :
    Element.AllReadable children ↔
      Element.AllWellTagged children ∧ Element.AllKeepTexts children := by
  match children with
  | [] => exact ⟨fun _ => ⟨trivial, trivial⟩, fun _ => trivial⟩
  | child :: rest =>
    rw [Element.AllReadable, Element.AllWellTagged, Element.AllKeepTexts, readable_iff child,
      allReadable_iff rest, and_and_and_comm]

end

theorem Element.Readable.wellTagged (e : Element) (h : e.Readable) : e.WellTagged :=
  ((readable_iff e).mp h).1

mutual

theorem kept_eq_iff (e : Element) : e.kept = e ↔ e.KeepsTexts := by
  match e with
  | .mk name attributes children text =>
    rw [Element.kept, Element.KeepsTexts, Element.mk.injEq, ← keptPiece_eq_iff,
      ← keptAll_eq_iff children]
    simp only [true_and, and_comm]

theorem keptAll_eq_iff (children : List Element) :
    Element.keptAll children = children ↔ Element.AllKeepTexts children := by
  match children with
  | [] => exact ⟨fun _ => trivial, fun _ => rfl⟩
  | child :: rest =>
    rw [Element.keptAll, Element.AllKeepTexts, List.cons.injEq, kept_eq_iff child,
      keptAll_eq_iff rest]

end

def pieceOf (text : String) : List Event :=
  if text.isEmpty then [] else [.text (escape text.toList)]

mutual

def eventsOf : Element → List Event
  | .mk name attributes children text =>
    if children.isEmpty && text.isEmpty then [.empty (tagOf name attributes)]
    else
      .start (tagOf name attributes) ::
        (pieceOf text ++ eventsOfAll children ++ [.close name.toList])

def eventsOfAll : List Element → List Event
  | [] => []
  | child :: rest => eventsOf child ++ eventsOfAll rest

end

theorem scanFrom_open (name : String) (attributes : Attributes) (rest : List Char)
    (h : PlainTag name attributes) :
    scanFrom (.text []) ('<' :: (name.toList ++ Element.writeAttributes attributes ++ rest)) =
      scanFrom (.tag none (tagOf name attributes).content.reverse) rest := by
  obtain ⟨c, cs, hn⟩ := List.exists_cons_of_ne_nil h.name.1
  have hc : isReserved c = false := h.name.2 c (by simp [hn])
  have hm := scanFrom_markup c (cs ++ Element.writeAttributes attributes ++ rest)
    (ne_of_not_reserved hc rfl) (ne_of_not_reserved hc rfl)
  rw [← List.cons_append, ← List.cons_append, ← hn, List.append_assoc] at hm
  have hs := scanFrom_name [] name.toList (Element.writeAttributes attributes ++ rest) h.name
  rw [scanFrom_attributes _ _ _ h.keys, List.append_nil, ← List.reverse_append] at hs
  rw [List.append_assoc]
  exact hm.trans hs

theorem scanFrom_tagEnd (read rest : List Char) :
    scanFrom (.tag none read) ('>' :: rest) =
      .ok (tagEvent read.reverse) :: scanFrom (.text []) rest := by
  simp [scanFrom, stepMode, stepTag]

theorem scanFrom_close (name rest : List Char) (h : PlainName name) :
    scanFrom (.text []) ('<' :: '/' :: (name ++ '>' :: rest)) =
      .ok (.close name) :: scanFrom (.text []) rest := by
  have hm := scanFrom_markup '/' (name ++ '>' :: rest) (by decide) (by decide)
  have hs : scanFrom (.tag none []) ('/' :: (name ++ '>' :: rest)) =
      scanFrom (.tag none (name.reverse ++ ['/'])) ('>' :: rest) := by
    rw [← scanFrom_name _ _ _ h]
    simp [scanFrom, stepMode, stepTag]
  have he := scanFrom_tagEnd (name.reverse ++ ['/']) rest
  rw [List.reverse_append, List.reverse_reverse, List.reverse_singleton, List.singleton_append,
    tagEvent_close name h] at he
  exact hm.trans (hs.trans he)

theorem scanFrom_piece (text : String) (rest : List Char) :
    scanFrom (.text []) (escape text.toList ++ '<' :: rest) =
      (pieceOf text).map .ok ++ scanFrom (.text []) ('<' :: rest) := by
  have ht := scanFrom_text [] (escape text.toList) rest fun c hc => (escape_ne _ c hc).1
  have hm : scanFrom (.text []) ('<' :: rest) = scanFrom .markup rest := rfl
  rw [ht, hm, List.append_nil, textEvents, pieceOf, List.isEmpty_reverse, List.reverse_reverse]
  by_cases h : text = ""
  · subst h
    rfl
  · have hl : text.toList ≠ [] := fun hl => h (String.toList_eq_nil_iff.mp hl)
    have he : escape text.toList ≠ [] := fun he => hl ((escape_eq_nil _).mp he)
    simp [h, he]

theorem write_head (e : Element) : ∃ more, e.write = '<' :: more := by
  obtain ⟨name, attributes, children, text⟩ := e
  rw [Element.write]
  split
  · exact ⟨_, rfl⟩
  · exact ⟨_, rfl⟩

theorem writeAll_head (children : List Element) (rest : List Char) :
    ∃ more, Element.writeAll children ++ '<' :: rest = '<' :: more := by
  cases children with
  | nil => exact ⟨rest, rfl⟩
  | cons child others =>
    obtain ⟨more, hm⟩ := write_head child
    exact ⟨_, by rw [Element.writeAll, hm, List.cons_append, List.cons_append]⟩

mutual

theorem scanFrom_write (e : Element) (rest : List Char) (h : e.WellTagged) :
    scanFrom (.text []) (e.write ++ rest) =
      (eventsOf e).map .ok ++ scanFrom (.text []) rest := by
  obtain ⟨name, attributes, children, text⟩ := e
  rw [Element.WellTagged] at h
  obtain ⟨hp, hc⟩ := h
  rw [Element.write, eventsOf]
  split
  · have ho := scanFrom_open name attributes ('/' :: '>' :: rest) hp
    have hs : scanFrom (.tag none (tagOf name attributes).content.reverse) ('/' :: '>' :: rest) =
        scanFrom (.tag none ((tagOf name attributes).content ++ ['/']).reverse) ('>' :: rest) := by
      simp [scanFrom, stepMode, stepTag]
    rw [hs, scanFrom_tagEnd, List.reverse_reverse, tagEvent_empty name attributes hp.name] at ho
    rw [List.cons_append, List.append_assoc]
    exact ho
  · obtain ⟨more, hm⟩ := writeAll_head children ('/' :: (name.toList ++ '>' :: rest))
    have hall := scanFrom_writeAll children ('<' :: '/' :: (name.toList ++ '>' :: rest)) hc
    have ho := scanFrom_open name attributes ('>' :: (escape text.toList ++
      (Element.writeAll children ++ '<' :: '/' :: (name.toList ++ '>' :: rest)))) hp
    rw [scanFrom_tagEnd, List.reverse_reverse, tagEvent_start name attributes hp.name, hm,
      scanFrom_piece, ← hm, hall, scanFrom_close name.toList rest hp.name] at ho
    simpa using ho

theorem scanFrom_writeAll (children : List Element) (rest : List Char)
    (h : Element.AllWellTagged children) :
    scanFrom (.text []) (Element.writeAll children ++ rest) =
      (eventsOfAll children).map .ok ++ scanFrom (.text []) rest := by
  match children, h with
  | [], _ => rfl
  | child :: others, h =>
    rw [Element.AllWellTagged] at h
    rw [Element.writeAll, eventsOfAll, List.append_assoc, scanFrom_write child _ h.1,
      scanFrom_writeAll others _ h.2, List.map_append, List.append_assoc]

end

theorem matchTags_piece (opened : List (List Char)) (text : String) (rest : Events) :
    matchTags opened ((pieceOf text).map .ok ++ rest) =
      (pieceOf text).map .ok ++ matchTags opened rest := by
  unfold pieceOf
  split
  · rfl
  · rfl

mutual

theorem matchTags_eventsOf (e : Element) (opened : List (List Char)) (rest : Events)
    (h : e.WellTagged) :
    matchTags opened ((eventsOf e).map .ok ++ rest) =
      (eventsOf e).map .ok ++ matchTags opened rest := by
  obtain ⟨name, attributes, children, text⟩ := e
  rw [Element.WellTagged] at h
  obtain ⟨hp, hc⟩ := h
  rw [eventsOf]
  split
  · rfl
  · simp only [List.map_cons, List.map_append, List.map_nil, List.cons_append, List.append_assoc,
      List.nil_append]
    rw [matchTags, tagOf_name name attributes hp.name, matchTags_piece,
      matchTags_eventsOfAll children _ _ hc, matchTags, if_pos rfl]

theorem matchTags_eventsOfAll (children : List Element) (opened : List (List Char))
    (rest : Events) (h : Element.AllWellTagged children) :
    matchTags opened ((eventsOfAll children).map .ok ++ rest) =
      (eventsOfAll children).map .ok ++ matchTags opened rest := by
  match children, h with
  | [], _ => rfl
  | child :: others, h =>
    rw [Element.AllWellTagged] at h
    rw [eventsOfAll, List.map_append, List.append_assoc, matchTags_eventsOf child _ _ h.1,
      matchTags_eventsOfAll others _ _ h.2, List.append_assoc]

end

theorem openElement_tagOf (name : String) (attributes : Attributes) (h : PlainTag name attributes) :
    openElement (tagOf name attributes) = .ok (.mk name attributes [] "") := by
  rw [openElement, tagOf_attributes name attributes h.name h.keys h.distinct,
    tagOf_name name attributes h.name, String.ofList_toList]
  rfl

theorem addText_empty (element : Element) : element.addText "" = element := by
  obtain ⟨name, attributes, children, text⟩ := element
  rw [Element.addText, String.append_empty]

theorem placeText_of_piece (raw : List Char) (piece : String) (element : Element)
    (h : unescapeValue raw = .ok piece) :
    placeText raw element = .ok (element.addText (keptPiece element.name piece)) := by
  rw [placeText, h, keptPiece]
  refine congrArg Except.ok ?_
  split
  · rfl
  · rw [addText_empty]

section Steps

variable (opened : List Element) (root : Option Element) (rest : Events)

theorem build_skipped : build opened root (.ok .skipped :: rest) = build opened root rest := by
  rw [build]

theorem build_start (tag : Tag) (element : Element) (h : openElement tag = .ok element) :
    build opened root (.ok (.start tag) :: rest) = build (element :: opened) root rest := by
  rw [build, h]
  rfl

theorem build_empty (tag : Tag) (element : Element) (h : openElement tag = .ok element) :
    build opened root (.ok (.empty tag) :: rest) =
      build (place element opened root).1 (place element opened root).2 rest := by
  rw [build, h]
  rfl

theorem build_close (name : List Char) (element : Element) :
    build (element :: opened) root (.ok (.close name) :: rest) =
      build (place element opened root).1 (place element opened root).2 rest := by
  rw [build]

theorem build_text_outside (raw : List Char) :
    build [] root (.ok (.text raw) :: rest) = build [] root rest := by
  rw [build]

theorem build_text_inside (raw : List Char) (piece : String) (element : Element)
    (h : unescapeValue raw = .ok piece) :
    build (element :: opened) root (.ok (.text raw) :: rest) =
      build (element.addText (keptPiece element.name piece) :: opened) root rest := by
  rw [build, placeText_of_piece raw piece element h]
  rfl

end Steps

theorem build_piece (name text : String) (attributes : Attributes) (below : List Element)
    (root : Option Element) (rest : Events) :
    build (.mk name attributes [] "" :: below) root ((pieceOf text).map .ok ++ rest) =
      build (.mk name attributes [] (keptPiece name text) :: below) root rest := by
  unfold pieceOf
  split
  · rename_i he
    rw [String.isEmpty_iff.mp he, (keptPiece_eq_iff name "").mpr (.inl rfl)]
    rfl
  · rw [List.map_cons, List.map_nil, List.singleton_append,
      build_text_inside below root rest _ text _ (unescapeValue_escape text), Element.addText,
      String.empty_append]
    rfl

mutual

theorem build_eventsOf (e : Element) (opened : List Element) (root : Option Element)
    (rest : Events) (h : e.WellTagged) :
    build opened root ((eventsOf e).map .ok ++ rest) =
      build (place e.kept opened root).1 (place e.kept opened root).2 rest := by
  obtain ⟨name, attributes, children, text⟩ := e
  rw [Element.WellTagged] at h
  obtain ⟨hp, hc⟩ := h
  rw [eventsOf]
  split
  · rename_i he
    rw [Bool.and_eq_true, List.isEmpty_iff, String.isEmpty_iff] at he
    rw [List.map_cons, List.map_nil, List.singleton_append,
      build_empty _ _ _ _ _ (openElement_tagOf name attributes hp), he.1, he.2, Element.kept,
      Element.keptAll, (keptPiece_eq_iff name "").mpr (.inl rfl)]
  · simp only [List.map_cons, List.map_append, List.map_nil, List.cons_append, List.append_assoc,
      List.nil_append]
    rw [build_start _ _ _ _ _ (openElement_tagOf name attributes hp),
      build_piece name text attributes opened root,
      build_eventsOfAll children name attributes [] _ opened root _ hc, build_close]
    rfl

theorem build_eventsOfAll (children : List Element) (name : String) (attributes : Attributes)
    (earlier : List Element) (text : String) (below : List Element) (root : Option Element)
    (rest : Events) (h : Element.AllWellTagged children) :
    build (.mk name attributes earlier text :: below) root
        ((eventsOfAll children).map .ok ++ rest) =
      build (.mk name attributes (earlier ++ Element.keptAll children) text :: below) root
        rest := by
  match children, h with
  | [], _ =>
    rw [Element.keptAll, List.append_nil]
    rfl
  | child :: others, h =>
    rw [Element.AllWellTagged] at h
    rw [eventsOfAll, List.map_append, List.append_assoc, build_eventsOf child _ _ _ h.1]
    change build (.mk name attributes (earlier ++ [child.kept]) text :: below) root _ = _
    rw [build_eventsOfAll others name attributes (earlier ++ [child.kept]) text below root rest h.2,
      Element.keptAll, List.append_assoc, List.singleton_append]

end

theorem scan_write (e : Element) (h : e.WellTagged) : scan e.write = (eventsOf e).map .ok := by
  have hs := scanFrom_write e [] h
  obtain ⟨more, hm⟩ := write_head e
  rw [List.append_nil, hm] at hs
  rw [hm, scan, if_neg (by decide), hs]
  exact List.append_nil _

/-- Reading what is written gives the element as it keeps its texts. -/
theorem parse_toText (e : Element) (h : e.WellTagged) : parse e.toText = .ok (some e.kept) := by
  have hm := matchTags_eventsOf e [] [] h
  have hb := build_eventsOf e [] none [] h
  rw [List.append_nil, matchTags, List.append_nil] at hm
  rw [List.append_nil] at hb
  rw [parse, events, Element.toText, String.toList_ofList, scan_write e h, hm, hb]
  rfl

/-- What is written is read back, to the last blank of every text that is kept. -/
theorem parse_write (e : Element) (h : e.Readable) : parse e.toText = .ok (some e) := by
  obtain ⟨hw, hk⟩ := (readable_iff e).mp h
  rw [parse_toText e hw, (kept_eq_iff e).mpr hk]

/-- An element with plain names, and with keys that are distinct within each tag, comes back from
its text whole, in the order it had, if and only if every text in it is empty, or not all blank, or
in a value element. -/
theorem parse_toText_eq_iff (e : Element) (h : e.WellTagged) :
    parse e.toText = .ok (some e) ↔ e.KeepsTexts := by
  rw [parse_toText e h, Except.ok.injEq, Option.some.injEq, kept_eq_iff]

def speckledElement : Element :=
  .mk "block" [("type", "<&>\"'"), ("name", " \t\n")]
    [.mk "field" [] [] "  ", .mk "value" [("type", "")] [.mk "field" [] [] ""] "]]>&amp;"] " x "

theorem parse_toText_eq_iff_speckledElement :
    speckledElement.WellTagged ∧ speckledElement.KeepsTexts ∧
      parse speckledElement.toText = .ok (some speckledElement) := by
  have hw : speckledElement.WellTagged := by
    simp only [speckledElement, Element.WellTagged, Element.AllWellTagged]
    decide
  have hk : speckledElement.KeepsTexts := by
    simp only [speckledElement, Element.KeepsTexts, Element.AllKeepTexts, KeptText]
    decide
  exact ⟨hw, hk, (parse_toText_eq_iff speckledElement hw).mpr hk⟩

end QueryBlocks.Xml
