import QueryBlocks.Proofs.Xml.Pieces

/-!
# Layout between tags

A document may be spread out: blanks, comments and processing instructions may come before it, after
it and wherever one of its tags follows on another. Blank text counts in value elements only, and a
value element is one piece with its text, so no piece of the document takes anything in.
-/

set_option autoImplicit false

namespace QueryBlocks.Xml

structure BlankText (raw : List Char) : Prop where
  noTag : '<' ∉ raw
  blank : ∃ piece, unescapeValue raw = .ok piece ∧ Text.allBlank piece = true

/-- Markup that the reader takes and skips: it ends where its end mark first stands. -/
inductive Skipped : List Char → Prop where
  | comment (body : List Char) (h : ¬ "-->".toList <:+: body) :
    Skipped ("<!--".toList ++ (body ++ "-->".toList))
  | instruction (body : List Char) (h : ¬ "?>".toList <:+: '?' :: body) :
    Skipped ("<?".toList ++ (body ++ "?>".toList))

inductive Filler : List Char → Prop where
  | blank (raw : List Char) (h : BlankText raw) : Filler raw
  | markup (raw skipped rest : List Char) (h : BlankText raw) (hs : Skipped skipped)
      (hr : Filler rest) : Filler (raw ++ (skipped ++ rest))

/-- A text with filler at its end and wherever an opening bracket follows on a closing one. -/
inductive Spaced : List Char → List Char → Prop where
  | done : Spaced [] []
  | piece (piece filler rest spaced : List Char) (hp : Bracketed piece) (hf : Filler filler)
      (h : Spaced rest spaced) : Spaced (piece ++ rest) (piece ++ (filler ++ spaced))

def LaidOut (text laid : List Char) : Prop :=
  ∃ filler spaced, laid = filler ++ spaced ∧ Filler filler ∧ Spaced text spaced

def Idle : Event → Prop
  | .skipped => True
  | .text raw => ∃ piece, unescapeValue raw = .ok piece ∧ Text.allBlank piece = true
  | _ => False

inductive Padded : List Piece → List Event → Prop where
  | done : Padded [] []
  | idle (event : Event) (pieces : List Piece) (events : List Event) (hi : Idle event)
      (h : Padded pieces events) : Padded pieces (event :: events)
  | piece (piece : Piece) (pieces : List Piece) (events : List Event) (h : Padded pieces events) :
    Padded (piece :: pieces) (piece.events ++ events)

theorem unescapeAt_blank (place : Nat) (raw : List Char) (h : ∀ c ∈ raw, Text.isBlank c = true) :
    unescapeAt place none raw = .ok raw := by
  induction raw generalizing place with
  | nil => rfl
  | cons c raw ih =>
    have hc : c ≠ '&' := by
      rintro rfl
      exact absurd (h '&' (by simp)) (by decide)
    have hrest := ih (place + c.utf8Size) fun d hd => h d (by simp [hd])
    simp only [unescapeAt, if_neg hc, hrest]
    rfl

theorem blankText_of_blank (raw : List Char) (hall : raw.all Text.isBlank = true) :
    BlankText raw := by
  have h : ∀ c ∈ raw, Text.isBlank c = true := List.all_eq_true.mp hall
  constructor
  case noTag =>
    intro hm
    exact absurd (h '<' hm) (by decide)
  case blank =>
    refine ⟨String.ofList raw, ?_, ?_⟩
    · simp only [unescapeValue, unescape, unescapeAt_blank 0 raw h]
    · simpa [Text.allBlank] using h

theorem spaced_pieces (pieces : List (List Char × List Char))
    (h : ∀ entry ∈ pieces, Bracketed entry.1 ∧ Filler entry.2) :
    Spaced (pieces.flatMap Prod.fst) (pieces.flatMap fun entry => entry.1 ++ entry.2) := by
  induction pieces with
  | nil => exact .done
  | cons entry pieces ih =>
    have hfirst := h entry (by simp)
    have hrest := ih fun other ho => h other (by simp [ho])
    simpa using Spaced.piece entry.1 entry.2 _ _ hfirst.1 hfirst.2 hrest

theorem scanFrom_raw (raw rest : List Char) (h : '<' ∉ raw) (hr : Resumes rest) :
    scanFrom (.text []) (raw ++ rest) = textEvents raw.reverse ++ scanFrom (.text []) rest := by
  have hall : ∀ c ∈ raw, c ≠ '<' := fun c hc he => h (he ▸ hc)
  cases rest with
  | nil =>
    have hend (read : List Char) :
        scanFrom (.text read) raw = textEvents (raw.reverse ++ read) := by
      clear hr h
      induction raw generalizing read with
      | nil => rfl
      | cons c raw ih =>
        have hc := hall c (by simp)
        rw [scanFrom]
        · rw [List.reverse_cons, List.append_assoc]
          exact ih (fun d hd => hall d (by simp [hd])) (c :: read)
        · intro _ _ heq
          exact hc heq
    simpa [scanFrom, textEvents] using hend []
  | cons c rest =>
    have hc : c = '<' := by simpa [Resumes] using hr
    subst hc
    have ht := scanFrom_text [] raw rest hall
    have hm : scanFrom (.text []) ('<' :: rest) = scanFrom .markup rest := rfl
    rw [ht, hm, List.append_nil]

/-- What was read of a comment is two dashes and `seen`: it goes on while no end mark is there. -/
theorem scanFrom_comment (seen left rest : List Char) (h : ¬ "-->".toList <:+: seen ++ left) :
    scanFrom (.comment (seen.reverse ++ ['-', '-'])) (left ++ ("-->".toList ++ rest)) =
      .ok .skipped :: scanFrom (.text []) rest := by
  induction left generalizing seen with
  | nil => simp [scanFrom, stepMode, startsWith, finishComment]
  | cons c left ih =>
    have hs : stepMode (.comment (seen.reverse ++ ['-', '-'])) c =
        .goOn (.comment (c :: (seen.reverse ++ ['-', '-']))) := by
      rw [stepMode, if_neg]
      rintro ⟨rfl, hd, hl⟩
      have hp : ['-', '-'] <+: seen.reverse := by
        apply List.prefix_of_prefix_length_le (List.isPrefixOf_iff_prefix.mp hd)
          (List.prefix_append _ _)
        simp at hl
        simpa using hl
      obtain ⟨more, hm⟩ := hp
      have hseen : seen = more.reverse ++ ['-', '-'] := by
        rw [← List.reverse_reverse seen, ← hm]
        simp
      exact h ⟨more.reverse, left, by simp [hseen]⟩
    have hnext := ih (seen ++ [c]) (by simpa using h)
    simp only [List.cons_append, scanFrom, hs]
    simpa using hnext

theorem scanFrom_instruction (seen left rest : List Char)
    (h : ¬ "?>".toList <:+: '?' :: (seen ++ left)) :
    scanFrom (.instruction (seen.reverse ++ ['?'])) (left ++ ("?>".toList ++ rest)) =
      .ok .skipped :: scanFrom (.text []) rest := by
  induction left generalizing seen with
  | nil =>
    have hl : ¬ seen.length + 1 + 1 < 2 := by omega
    simp [scanFrom, stepMode, startsWith, hl]
  | cons c left ih =>
    have hs : stepMode (.instruction (seen.reverse ++ ['?'])) c =
        .goOn (.instruction (c :: (seen.reverse ++ ['?']))) := by
      rw [stepMode, if_neg]
      rintro ⟨rfl, hq⟩
      obtain ⟨more, hm⟩ := List.isPrefixOf_iff_prefix.mp hq
      have hseen : '?' :: seen = more.reverse ++ ['?'] := by
        have hr := congrArg List.reverse hm
        simpa using hr.symm
      exact h ⟨more.reverse, left, by simp [← List.cons_append, hseen]⟩
    have hnext := ih (seen ++ [c]) (by simpa using h)
    simp only [List.cons_append, scanFrom, hs]
    simpa using hnext

theorem scanFrom_skipped (skipped rest : List Char) (h : Skipped skipped) :
    scanFrom (.text []) (skipped ++ rest) = .ok .skipped :: scanFrom (.text []) rest := by
  cases h with
  | comment body h =>
    have hc := scanFrom_comment [] body rest (by simpa using h)
    simpa [scanFrom, stepMode, textEvents] using hc
  | instruction body h =>
    have hi := scanFrom_instruction [] body rest (by simpa using h)
    simpa [scanFrom, stepMode, textEvents] using hi

theorem resumes_skipped (skipped rest : List Char) (h : Skipped skipped) :
    Resumes (skipped ++ rest) := by
  cases h with
  | comment body h => exact .inr rfl
  | instruction body h => exact .inr rfl

theorem textEvents_idle (raw : List Char) (h : BlankText raw) :
    ∃ idle : List Event, (∀ event ∈ idle, Idle event) ∧ textEvents raw.reverse = idle.map .ok := by
  by_cases hn : raw = []
  · exact ⟨[], by simp, by simp [hn, textEvents]⟩
  · exact ⟨[.text raw], by simpa [Idle] using h.blank, by simp [hn, textEvents]⟩

theorem scanFrom_filler (filler rest : List Char) (hf : Filler filler) (hr : Resumes rest) :
    ∃ idle : List Event, (∀ event ∈ idle, Idle event) ∧
      scanFrom (.text []) (filler ++ rest) = idle.map .ok ++ scanFrom (.text []) rest := by
  induction hf with
  | blank raw h =>
    obtain ⟨idle, hi, ht⟩ := textEvents_idle raw h
    exact ⟨idle, hi, by rw [scanFrom_raw raw rest h.noTag hr, ht]⟩
  | markup raw skipped more h hs _ ih =>
    obtain ⟨front, hfront, ht⟩ := textEvents_idle raw h
    obtain ⟨back, hback, hb⟩ := ih
    have hresumes := resumes_skipped skipped (more ++ rest) hs
    have hscan : scanFrom (.text []) (raw ++ (skipped ++ more) ++ rest) =
        (front ++ .skipped :: back).map .ok ++ scanFrom (.text []) rest := by
      rw [List.append_assoc, List.append_assoc, scanFrom_raw raw _ h.noTag hresumes,
        scanFrom_skipped skipped _ hs, hb, ht]
      simp
    refine ⟨front ++ .skipped :: back, ?_, hscan⟩
    intro event he
    simp only [List.mem_append, List.mem_cons] at he
    rcases he with he | rfl | he
    · exact hfront event he
    · trivial
    · exact hback event he

theorem padded_idle (idle : List Event) (pieces : List Piece) (events : List Event)
    (hi : ∀ event ∈ idle, Idle event) (h : Padded pieces events) :
    Padded pieces (idle ++ events) := by
  induction idle with
  | nil => exact h
  | cons event idle ih =>
    exact .idle event pieces _ (hi event (by simp)) (ih fun other ho => hi other (by simp [ho]))

theorem padded_pieces (front pieces : List Piece) (events : List Event)
    (h : Padded pieces events) :
    Padded (front ++ pieces) (front.flatMap Piece.events ++ events) := by
  induction front with
  | nil => exact h
  | cons piece front ih =>
    rw [List.flatMap_cons, List.append_assoc]
    exact .piece piece _ _ ih

theorem scanFrom_pieces (pieces : List Piece) (rest : List Char)
    (hp : ∀ piece ∈ pieces, piece.Plain) :
    scanFrom (.text []) (pieces.flatMap Piece.chars ++ rest) =
      (pieces.flatMap Piece.events).map .ok ++ scanFrom (.text []) rest := by
  induction pieces with
  | nil => rfl
  | cons piece pieces ih =>
    have hrest := ih fun other ho => hp other (by simp [ho])
    rw [List.flatMap_cons, List.append_assoc, scanFrom_chars piece _ (hp piece (by simp)), hrest]
    simp

theorem resumes_bracketed (piece rest : List Char) (h : Bracketed piece) :
    Resumes (piece ++ rest) := by
  obtain ⟨c, more, rfl⟩ := List.exists_cons_of_ne_nil (l := piece) (by
    rintro rfl
    simp [Bracketed] at h)
  exact .inr h.1

theorem resumes_spaced (text spaced : List Char) (h : Spaced text spaced) :
    Resumes text ∧ Resumes spaced := by
  cases h with
  | done => exact ⟨.inl rfl, .inl rfl⟩
  | piece piece filler rest spaced hp hf h =>
    exact ⟨resumes_bracketed piece rest hp, resumes_bracketed piece _ hp⟩

theorem scanFrom_spaced (pieces : List Piece) (text spaced : List Char)
    (hp : ∀ piece ∈ pieces, piece.Plain) (ht : pieces.flatMap Piece.chars = text)
    (h : Spaced text spaced) :
    ∃ events, Padded pieces events ∧ scanFrom (.text []) spaced = events.map .ok := by
  induction h generalizing pieces with
  | done =>
    cases pieces with
    | nil => exact ⟨[], .done, rfl⟩
    | cons piece pieces =>
      have hn : piece.chars = [] := (List.append_eq_nil_iff.mp ht).1
      exact absurd hn piece.chars_ne_nil
  | piece front filler rest spaced hb hf h ih =>
    have hresumes := resumes_spaced rest spaced h
    obtain ⟨before, after, rfl, hbefore, hafter⟩ :=
      cut_between_pieces pieces front rest hp hb.2 hresumes.1 ht
    obtain ⟨events, hpadded, hscan⟩ := ih after (fun piece hm => hp piece (by simp [hm])) hafter
    obtain ⟨idle, hidle, hfill⟩ := scanFrom_filler filler spaced hf hresumes.2
    refine ⟨before.flatMap Piece.events ++ (idle ++ events),
      padded_pieces before after _ (padded_idle idle after events hidle hpadded), ?_⟩
    rw [← hbefore, scanFrom_pieces before _ (fun piece hm => hp piece (by simp [hm])), hfill, hscan]
    simp

theorem build_idle (event : Event) (opened : List Element) (root : Option Element) (rest : Events)
    (hi : Idle event) (ho : ∀ e ∈ opened, e.name ≠ valueElement) :
    build opened root (.ok event :: rest) = build opened root rest := by
  cases event with
  | start tag => exact hi.elim
  | empty tag => exact hi.elim
  | close name => exact hi.elim
  | skipped => exact build_skipped opened root rest
  | text raw =>
    cases opened with
    | nil => exact build_text_outside root rest raw
    | cons element below =>
      obtain ⟨piece, hread, hblank⟩ := hi
      have hkept : keptPiece element.name piece = "" := by
        simp [keptPiece, ho element (by simp), hblank]
      rw [build_text_inside below root rest raw piece element hread, hkept, addText_empty]

theorem matchTags_idle (names : List (List Char)) (event : Event) (rest : Events)
    (hi : Idle event) :
    matchTags names (.ok event :: rest) = .ok event :: matchTags names rest := by
  cases event with
  | start tag => exact hi.elim
  | empty tag => exact hi.elim
  | close name => exact hi.elim
  | skipped => rfl
  | text raw => rfl

theorem name_place (element : Element) (opened : List Element) (root : Option Element)
    (ho : ∀ e ∈ opened, e.name ≠ valueElement) :
    ∀ e ∈ (place element opened root).1, e.name ≠ valueElement := by
  cases opened with
  | nil => simp [place]
  | cons parent below =>
    intro e he
    rcases List.mem_cons.mp he with rfl | he
    · obtain ⟨name, attributes, children, text⟩ := parent
      exact ho (.mk name attributes children text) (by simp)
    · exact ho e (by simp [he])

/-- Idle events between pieces change nothing, since no value element is open there. -/
theorem build_padded (pieces : List Piece) (events : List Event) (names : List (List Char))
    (opened : List Element) (root : Option Element) (h : Padded pieces events)
    (hp : ∀ piece ∈ pieces, piece.Plain) (ho : ∀ e ∈ opened, e.name ≠ valueElement) :
    build opened root (matchTags names (events.map .ok)) =
      build opened root (matchTags names ((pieces.flatMap Piece.events).map .ok)) := by
  induction h generalizing names opened root with
  | done => rfl
  | idle event pieces events hi _ ih =>
    rw [List.map_cons, matchTags_idle names event _ hi, build_idle event opened root _ hi ho]
    exact ih names opened root hp ho
  | piece piece pieces events _ ih =>
    have hplain := hp piece (by simp)
    have hrest : ∀ other ∈ pieces, other.Plain := fun other hm => hp other (by simp [hm])
    rw [List.flatMap_cons, List.map_append, List.map_append]
    cases piece with
    | opening name attributes =>
      simp only [Piece.events, List.map_cons, List.map_nil, List.singleton_append, matchTags]
      simp only [build, openElement_tagOf name attributes hplain.1]
      refine ih _ _ root hrest ?_
      intro e he
      rcases List.mem_cons.mp he with rfl | he
      · exact hplain.2
      · exact ho e he
    | closing name =>
      simp only [Piece.events, List.map_cons, List.map_nil, List.singleton_append, matchTags]
      cases names with
      | nil => rfl
      | cons top names =>
        by_cases ht : top = name.toList
        · simp only [if_pos ht]
          cases opened with
          | nil => rfl
          | cons element below =>
            simp only [build]
            exact ih names _ _ hrest (name_place element below root fun e he => ho e (by simp [he]))
        · simp only [if_neg ht]
    | leaf name attributes text =>
      simp only [Piece.events]
      have hwell := Element.Readable.wellTagged _ hplain
      rw [matchTags_eventsOf _ names _ hwell, matchTags_eventsOf _ names _ hwell,
        build_eventsOf _ opened root _ hwell, build_eventsOf _ opened root _ hwell]
      exact ih names _ _ hrest (name_place _ opened root ho)

/-- A byte order mark is not blank, so no filler starts with one. -/
theorem not_mark_of_blankText (raw tail rest : List Char) (c : Char) (h : BlankText raw)
    (ht : Resumes tail) (he : raw ++ tail = c :: rest) : c.toNat ≠ 0xFEFF := by
  cases raw with
  | nil =>
    have hc : c = '<' := by simpa [Resumes, show tail = c :: rest from he] using ht
    rw [hc]
    decide
  | cons d raw =>
    intro hm
    have hd : d = Char.ofNat 0xFEFF := by
      rw [(List.cons.inj he).1, ← hm, Char.ofNat_toNat]
    obtain ⟨piece, hread, hblank⟩ := h.blank
    subst hd
    have hcons : unescape (Char.ofNat 0xFEFF :: raw) =
        (unescapeAt 3 none raw).map (Char.ofNat 0xFEFF :: ·) := rfl
    rw [unescapeValue, hcons] at hread
    cases hrest : unescapeAt 3 none raw with
    | error fault => simp [hrest, Except.map] at hread
    | ok more =>
      simp only [hrest, Except.map, Except.ok.injEq] at hread
      subst hread
      simp [Text.allBlank] at hblank
      exact absurd hblank.1 (by decide)

theorem not_mark_of_filler (filler tail rest : List Char) (c : Char) (hf : Filler filler)
    (ht : Resumes tail) (he : filler ++ tail = c :: rest) : c.toNat ≠ 0xFEFF := by
  cases hf with
  | blank _ h => exact not_mark_of_blankText _ tail rest c h ht he
  | markup raw skipped more h hs _ =>
    rw [List.append_assoc, List.append_assoc] at he
    exact not_mark_of_blankText raw _ rest c h (resumes_skipped skipped _ hs) he

theorem scan_unmarked (cs : List Char) (h : ∀ c rest, cs = c :: rest → c.toNat ≠ 0xFEFF) :
    scan cs = scanFrom (.text []) cs := by
  cases cs with
  | nil => rfl
  | cons c rest => rw [scan, if_neg (h c rest rfl)]

theorem scan_write_pieces (e : Element) (hr : e.Readable) (ht : e.TextAtLeaves) :
    scan e.write = ((piecesOf e).flatMap Piece.events).map .ok := by
  have hp := scanFrom_pieces (piecesOf e) [] (plain_piecesOf e hr ht)
  rw [List.append_nil, flatMap_chars e ht] at hp
  obtain ⟨more, hm⟩ := write_head e
  have hs := scan_unmarked e.write (by
    intro c rest hc
    rw [hm] at hc
    rw [← (List.cons.inj hc).1]
    decide)
  rw [hs, hp]
  exact List.append_nil _

/-- An element is read from its text however that is laid out. -/
theorem parse_laidOut (e : Element) (laid : String) (hr : e.Readable) (ht : e.TextAtLeaves)
    (h : LaidOut e.write laid.toList) : parse laid = .ok (some e) := by
  obtain ⟨filler, spaced, hlaid, hf, hs⟩ := h
  have hplain := plain_piecesOf e hr ht
  have hchars := flatMap_chars e ht
  obtain ⟨events, hpadded, hspaced⟩ := scanFrom_spaced _ _ spaced hplain hchars hs
  obtain ⟨idle, hidle, hfill⟩ := scanFrom_filler filler spaced hf (resumes_spaced _ _ hs).2
  have hall := padded_idle idle _ events hidle hpadded
  have hscan : scan laid.toList = (idle ++ events).map .ok := by
    rw [hlaid, scan_unmarked, hfill, hspaced, List.map_append]
    intro c rest he
    exact not_mark_of_filler filler spaced rest c hf (resumes_spaced _ _ hs).2 he
  have hbuild := build_padded _ _ [] [] none hall hplain (by simp)
  have hparse := parse_write e hr
  rw [parse, Xml.events, Element.toText, String.toList_ofList, scan_write_pieces e hr ht] at hparse
  rw [parse, Xml.events, hscan, hbuild, hparse]

end QueryBlocks.Xml
