import QueryBlocks.Block.Document
import QueryBlocks.Proofs.Xml.Elements
import QueryBlocks.Proofs.Xml.Faults

/-!
# The first tree of a forest

The events of a document are those of a forest, with text and skipped markup anywhere between the
trees and inside of them. What is built from them is the first tree. Where the events break off
inside of a tree, an element is left open.
-/

set_option autoImplicit false

namespace QueryBlocks.Xml

inductive Item where
  | text (piece : String)
  | element (name : String) (attributes : Attributes) (content : List Item)

def Item.piece? : Item → Option String
  | .text piece => some piece
  | .element _ _ _ => none

def textIn (name : String) (content : List Item) : String :=
  String.join ((content.filterMap Item.piece?).map (keptPiece name))

mutual

def Item.tree? : Item → Option Element
  | .text _ => none
  | .element name attributes content =>
    some (.mk name attributes (treesOf content) (textIn name content))

def treesOf : List Item → List Element
  | [] => []
  | item :: rest => item.tree?.toList ++ treesOf rest

end

/-- The events of items, with skipped markup anywhere among them. Inside of an element the text is
well formed; outside it may be anything. That the name of an end tag is the right one has been seen
to before. -/
inductive Stream : Bool → List Item → List Event → Prop where
  | done (inside : Bool) : Stream inside [] []
  | skipped (inside : Bool) (items : List Item) (events : List Event)
      (rest : Stream inside items events) : Stream inside items (.skipped :: events)
  | text (inside : Bool) (raw : List Char) (piece : String) (items : List Item)
      (events : List Event) (h : inside = true → unescapeValue raw = .ok piece)
      (rest : Stream inside items events) :
    Stream inside (.text piece :: items) (.text raw :: events)
  | empty (inside : Bool) (tag : Tag) (name : String) (attributes : Attributes)
      (items : List Item) (events : List Event)
      (h : openElement tag = .ok (.mk name attributes [] ""))
      (rest : Stream inside items events) :
    Stream inside (.element name attributes [] :: items) (.empty tag :: events)
  | element (inside : Bool) (tag : Tag) (name : String) (attributes : Attributes)
      (closing : List Char) (content items : List Item) (inner events : List Event)
      (h : openElement tag = .ok (.mk name attributes [] "")) (within : Stream true content inner)
      (rest : Stream inside items events) :
    Stream inside (.element name attributes content :: items)
      (.start tag :: (inner ++ .close closing :: events))

@[simp] theorem textIn_nil (name : String) : textIn name [] = "" := rfl

@[simp] theorem textIn_text (name piece : String) (items : List Item) :
    textIn name (.text piece :: items) = keptPiece name piece ++ textIn name items := by
  simp [textIn, Item.piece?, String.join_cons]

@[simp] theorem textIn_element (name childName : String) (attributes : Attributes)
    (content items : List Item) :
    textIn name (.element childName attributes content :: items) = textIn name items := rfl

@[simp] theorem treesOf_nil : treesOf [] = [] := rfl

@[simp] theorem treesOf_text (piece : String) (items : List Item) :
    treesOf (.text piece :: items) = treesOf items := rfl

@[simp] theorem treesOf_element (name : String) (attributes : Attributes)
    (content items : List Item) :
    treesOf (.element name attributes content :: items) =
      .mk name attributes (treesOf content) (textIn name content) :: treesOf items := rfl

/-- What items add to the innermost open element; outside of all, the first tree is the root. -/
def receive (items : List Item) : List Element → Option Element → List Element × Option Element
  | [], root => ([], root <|> (treesOf items).head?)
  | .mk name attributes children text :: below, root =>
    (.mk name attributes (children ++ treesOf items) (text ++ textIn name items) :: below, root)

theorem receive_nil (opened : List Element) (root : Option Element) :
    receive [] opened root = (opened, root) := by
  cases opened with
  | nil => simp [receive]
  | cons parent below =>
    obtain ⟨name, attributes, children, text⟩ := parent
    simp [receive]

theorem receive_text (piece : String) (items : List Item) (element : Element)
    (below : List Element) (root : Option Element) :
    receive (.text piece :: items) (element :: below) root =
      receive items (element.addText (keptPiece element.name piece) :: below) root := by
  obtain ⟨name, attributes, children, text⟩ := element
  simp [receive, Element.addText, Element.name, String.append_assoc]

/-- An element that is complete goes where the first of the items goes. -/
theorem receive_element (name : String) (attributes : Attributes) (content items : List Item)
    (opened : List Element) (root : Option Element) :
    receive (.element name attributes content :: items) opened root =
      receive items
        (place (.mk name attributes (treesOf content) (textIn name content)) opened root).1
        (place (.mk name attributes (treesOf content) (textIn name content)) opened root).2 := by
  cases opened with
  | nil => cases root <;> simp [receive, place]
  | cons parent below =>
    obtain ⟨parentName, parentAttributes, children, text⟩ := parent
    simp [receive, place, Element.addChild]

/-- An element that was just opened becomes the tree of its content. -/
theorem receive_opened (name : String) (attributes : Attributes) (content : List Item)
    (below : List Element) (root : Option Element) :
    receive content (.mk name attributes [] "" :: below) root =
      (.mk name attributes (treesOf content) (textIn name content) :: below, root) := by
  simp [receive]

theorem length_place (element : Element) (opened : List Element) (root : Option Element) :
    (place element opened root).1.length = opened.length := by
  cases opened with
  | nil => rfl
  | cons parent below => rfl

theorem place_outside_or (element : Element) (opened : List Element) (root : Option Element)
    (inside : Bool) (h : opened = [] ∨ inside = true) :
    (place element opened root).1 = [] ∨ inside = true := by
  refine h.imp_left fun hnil => ?_
  rw [hnil]
  rfl

/-- The events of items put them where they belong, whatever is open and whatever comes next. -/
theorem build_stream (inside : Bool) (items : List Item) (events : List Event)
    (h : Stream inside items events) (opened : List Element) (root : Option Element)
    (rest : Events) (hi : opened = [] ∨ inside = true) :
    build opened root (events.map .ok ++ rest) =
      build (receive items opened root).1 (receive items opened root).2 rest := by
  induction h generalizing opened root rest with
  | done inside => rw [receive_nil]; rfl
  | skipped inside items events _ ih =>
    rw [List.map_cons, List.cons_append, build_skipped]
    exact ih opened root rest hi
  | text inside raw piece items events hp _ ih =>
    rw [List.map_cons, List.cons_append]
    cases opened with
    | nil =>
      rw [build_text_outside]
      exact ih [] root rest hi
    | cons element below =>
      have hinside : inside = true := hi.resolve_left (by simp)
      rw [build_text_inside below root _ raw piece element (hp hinside), receive_text]
      exact ih _ root rest (.inr hinside)
  | empty inside tag name attributes items events ho _ ih =>
    rw [List.map_cons, List.cons_append, build_empty opened root _ tag _ ho, receive_element]
    exact ih _ _ rest (place_outside_or _ opened root inside hi)
  | element inside tag name attributes closing content items inner events ho _ _ within ih =>
    rw [List.map_cons, List.map_append, List.cons_append, List.append_assoc,
      build_start opened root _ tag _ ho, within _ root _ (.inr rfl), receive_opened,
      List.map_cons, List.cons_append, build_close, receive_element]
    exact ih _ _ rest (place_outside_or _ opened root inside hi)

def Event.isStart : Event → Bool
  | .start _ => true
  | _ => false

def Event.isClose : Event → Bool
  | .close _ => true
  | _ => false

/-- With so many elements open before, some are open behind the events. -/
def LeavesOpen (before : Nat) (events : List Event) : Prop :=
  events.countP Event.isClose < before + events.countP Event.isStart

section LeavesOpen

variable (before : Nat) (events : List Event)

theorem leavesOpen_nil : LeavesOpen before [] ↔ 0 < before := by simp [LeavesOpen]

@[simp] theorem leavesOpen_skipped :
    LeavesOpen before (.skipped :: events) ↔ LeavesOpen before events := by
  simp [LeavesOpen, Event.isClose, Event.isStart]

@[simp] theorem leavesOpen_text (raw : List Char) :
    LeavesOpen before (.text raw :: events) ↔ LeavesOpen before events := by
  simp [LeavesOpen, Event.isClose, Event.isStart]

@[simp] theorem leavesOpen_empty (tag : Tag) :
    LeavesOpen before (.empty tag :: events) ↔ LeavesOpen before events := by
  simp [LeavesOpen, Event.isClose, Event.isStart]

@[simp] theorem leavesOpen_start (tag : Tag) :
    LeavesOpen before (.start tag :: events) ↔ LeavesOpen (before + 1) events := by
  simp [LeavesOpen, List.countP_cons, Event.isClose, Event.isStart]
  omega

@[simp] theorem leavesOpen_close (name : List Char) :
    LeavesOpen (before + 1) (.close name :: events) ↔ LeavesOpen before events := by
  simp [LeavesOpen, List.countP_cons, Event.isClose, Event.isStart]
  omega

theorem leavesOpen_append (more : List Event)
    (h : events.countP Event.isClose = events.countP Event.isStart) :
    LeavesOpen before (events ++ more) ↔ LeavesOpen before more := by
  simp [LeavesOpen, h]
  omega

end LeavesOpen

/-- All that is opened in a stream is closed in it. -/
theorem countP_stream (inside : Bool) (items : List Item) (events : List Event)
    (h : Stream inside items events) :
    events.countP Event.isClose = events.countP Event.isStart := by
  induction h with
  | done => rfl
  | skipped inside items events _ ih => simpa [Event.isClose, Event.isStart] using ih
  | text inside raw piece items events hp _ ih => simpa [Event.isClose, Event.isStart] using ih
  | empty inside tag name attributes items events ho _ ih =>
    simpa [Event.isClose, Event.isStart] using ih
  | element inside tag name attributes closing content items inner events ho _ _ within ih =>
    simp [List.countP_cons, Event.isClose, Event.isStart, within, ih]
    omega

/-- A beginning of a list around an element ends before the element or behind it. -/
theorem prefix_around {α : Type} (front before behind : List α) (x : α)
    (h : front <+: before ++ x :: behind) :
    front <+: before ∨ ∃ back, front = before ++ x :: back ∧ back <+: behind := by
  rcases List.prefix_or_prefix_of_prefix h (List.prefix_append before _) with hf | ⟨back, rfl⟩
  · exact .inl hf
  · have hb := (List.prefix_append_right_inj before).mp h
    rcases List.prefix_cons_iff.mp hb with rfl | ⟨back, rfl, hback⟩
    · exact .inl (by simp)
    · exact .inr ⟨back, rfl, hback⟩

theorem build_end (opened : List Element) (root : Option Element)
    (h : LeavesOpen opened.length []) : build opened root [] = .error .openElement := by
  have hne : opened ≠ [] := List.ne_nil_of_length_pos ((leavesOpen_nil _).mp h)
  simp [build, hne]

/-- Building fails where a stream breaks off with something open, be it of the stream or from
before. -/
theorem build_broken (inside : Bool) (items : List Item) (events : List Event)
    (h : Stream inside items events) (front : List Event) (hf : front <+: events)
    (opened : List Element) (root : Option Element) (hi : opened = [] ∨ inside = true)
    (hopen : LeavesOpen opened.length front) :
    build opened root (front.map .ok) = .error .openElement := by
  induction h generalizing front opened root with
  | done inside =>
    rw [List.prefix_nil.mp hf] at hopen ⊢
    exact build_end opened root hopen
  | skipped inside items events _ ih =>
    rcases List.prefix_cons_iff.mp hf with rfl | ⟨rest, rfl, hr⟩
    · exact build_end opened root hopen
    · rw [List.map_cons, build_skipped]
      exact ih rest hr opened root hi (by simpa using hopen)
  | text inside raw piece items events hp _ ih =>
    rcases List.prefix_cons_iff.mp hf with rfl | ⟨rest, rfl, hr⟩
    · exact build_end opened root hopen
    · rw [leavesOpen_text] at hopen
      rw [List.map_cons]
      cases opened with
      | nil =>
        rw [build_text_outside]
        exact ih rest hr [] root hi hopen
      | cons element below =>
        have hinside : inside = true := hi.resolve_left (by simp)
        rw [build_text_inside below root _ raw piece element (hp hinside)]
        exact ih rest hr _ root (.inr hinside) hopen
  | empty inside tag name attributes items events ho _ ih =>
    rcases List.prefix_cons_iff.mp hf with rfl | ⟨rest, rfl, hr⟩
    · exact build_end opened root hopen
    · rw [List.map_cons, build_empty opened root _ tag _ ho]
      apply ih rest hr _ _ (place_outside_or _ opened root inside hi)
      simpa [length_place] using hopen
  | element inside tag name attributes closing content items inner events ho hin _ within ih =>
    rcases List.prefix_cons_iff.mp hf with rfl | ⟨rest, rfl, hr⟩
    · exact build_end opened root hopen
    · rw [leavesOpen_start] at hopen
      rw [List.map_cons, build_start opened root _ tag _ ho]
      rcases prefix_around rest inner events _ hr with hinner | ⟨back, rfl, hb⟩
      · -- it breaks off inside of the element that starts here
        exact within rest hinner _ root (.inr rfl) hopen
      · -- the element is closed, and it breaks off behind
        have hclosed := countP_stream true content inner hin
        rw [leavesOpen_append _ _ _ hclosed, leavesOpen_close] at hopen
        rw [List.map_append, build_stream true content inner hin _ root _ (.inr rfl),
          receive_opened, List.map_cons, build_close]
        apply ih back hb _ _ (place_outside_or _ opened root inside hi)
        rwa [length_place]

/-- Building from the events of a forest gives its first tree, or nothing where it has no tree. From
events that break off inside of an element it gives the fault of an element that is open. A text
with the events of a forest is read as the first tree, or has no root. And in no text does an end
tag come where nothing is open. -/
theorem first_tree_built :
    (∀ forest events, Stream false forest events →
      build [] none (events.map .ok) = .ok (treesOf forest).head?) ∧
    (∀ forest events front, Stream false forest events → front <+: events → LeavesOpen 0 front →
      build [] none (front.map .ok) = .error .openElement) ∧
    (∀ text forest events, Stream false forest events → Xml.events text = events.map .ok →
      Document.root text = match (treesOf forest).head? with
        | some tree => .ok tree
        | none => .error .noRoot) ∧
    ∀ text, parse text ≠ .error .unbalancedEnd := by
  have hwhole (forest : List Item) (events : List Event) (h : Stream false forest events) :
      build [] none (events.map .ok) = .ok (treesOf forest).head? := by
    have hb := build_stream false forest events h [] none [] (.inl rfl)
    rw [List.append_nil] at hb
    simp [hb, receive, build]
  refine ⟨hwhole, fun forest events front h hf hopen => ?_, fun text forest events h he => ?_,
    parse_ne_unbalancedEnd⟩
  · exact build_broken false forest events h front hf [] none (.inl rfl) hopen
  · rw [Document.root, parse, he, hwhole forest events h]
    cases (treesOf forest).head? with
    | none => rfl
    | some tree => rfl

def pairForest : List Item :=
  [.text "", .element "a" [("k", "<")]
      [.text " ", .element "field" [] [.text " "], .text "t", .element "b" [] [], .text "&"],
    .element "c" [] []]

def pairText : String :=
  "&<!-- --><a k='&lt;'> <field> </field>t<b/>&amp;</a><c></c>"

def pairEvents : List Event :=
  [.text ['&'], .skipped, .start ⟨"a k='&lt;'".toList⟩, .text [' '], .start ⟨"field".toList⟩,
    .text [' '], .close "field".toList, .text ['t'], .empty ⟨['b']⟩, .text "&amp;".toList,
    .close ['a'], .start ⟨['c']⟩, .close ['c']]

def pairTree : Element :=
  .mk "a" [("k", "<")] [.mk "field" [] [] " ", .mk "b" [] [] ""] "t&"

theorem stream_pairEvents : Stream false pairForest pairEvents := by
  have hfield : Stream true [.text " "] [.text [' ']] :=
    .text true _ _ _ _ (fun _ => rfl) (.done true)
  have hinner : Stream true
      [.text " ", .element "field" [] [.text " "], .text "t", .element "b" [] [], .text "&"]
      [.text [' '], .start ⟨"field".toList⟩, .text [' '], .close "field".toList, .text ['t'],
        .empty ⟨['b']⟩, .text "&amp;".toList] :=
    .text true _ _ _ _ (fun _ => rfl) <|
      .element true _ "field" [] _ _ _ _ _ rfl hfield <|
      .text true _ _ _ _ (fun _ => rfl) <|
      .empty true _ "b" [] _ _ rfl <|
      .text true _ _ _ _ (fun _ => rfl) (.done true)
  exact .text false _ _ _ _ nofun <|
    .skipped false _ _ <|
    .element false _ "a" [("k", "<")] _ _ _ _ _ rfl hinner <|
    .element false _ "c" [] _ _ _ _ _ rfl (.done true) (.done false)

theorem first_tree_built_pairForest :
    Stream false pairForest pairEvents ∧
    build [] none (pairEvents.map .ok) = .ok (some pairTree) ∧
    (pairEvents.take 8 <+: pairEvents ∧ LeavesOpen 0 (pairEvents.take 8) ∧
      build [] none ((pairEvents.take 8).map .ok) = .error .openElement) ∧
    Xml.events pairText = pairEvents.map .ok ∧ Document.root pairText = .ok pairTree := by
  have hs := stream_pairEvents
  have hf : pairEvents.take 8 <+: pairEvents := List.take_prefix 8 pairEvents
  have hopen : LeavesOpen 0 (pairEvents.take 8) := by unfold LeavesOpen; decide
  have he : Xml.events pairText = pairEvents.map .ok := by decide +kernel
  exact ⟨hs, first_tree_built.1 _ _ hs,
    ⟨hf, hopen, first_tree_built.2.1 _ _ _ hs hf hopen⟩, he,
    first_tree_built.2.2.1 _ _ _ hs he⟩

end QueryBlocks.Xml
