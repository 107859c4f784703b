import QueryBlocks.Proofs.Block.Lockstep
import QueryBlocks.Proofs.Block.Persistence
import QueryBlocks.Proofs.Xml.Layout

/-!
# Trees load from any layout

The document of a tree has its texts in value elements without children. So layout between its tags
changes nothing of what is read: the document is the same one, to the last blank of every value.
-/

set_option autoImplicit false

namespace QueryBlocks

namespace Document

open Xml (Element)

theorem textAtLeaves_ofParameters (ps : List Parameter) :
    Element.AllTextAtLeaves (ps.map ofParameter) := by
  induction ps with
  | nil => trivial
  | cons p ps ih => exact ⟨⟨.inl rfl, trivial⟩, ih⟩

theorem textAtLeaves_ofHeader (header : Header) (count : Option Nat) :
    (ofHeader header count).TextAtLeaves :=
  ⟨.inr ⟨rfl, by decide⟩, textAtLeaves_ofParameters header.parameters⟩

theorem textAtLeaves_plugBlock (type field text : String) :
    (plugBlock type field text).TextAtLeaves :=
  ⟨.inr ⟨rfl, by decide⟩, ⟨.inl rfl, trivial⟩, trivial⟩

theorem textAtLeaves_ofValue (value : BoundValue) : (ofValue value).TextAtLeaves := by
  cases value with
  | text value => exact textAtLeaves_plugBlock _ _ _
  | number value => exact textAtLeaves_plugBlock _ _ _
  | boolean value => exact textAtLeaves_plugBlock _ _ _
  | enum name => exact textAtLeaves_plugBlock _ _ _

theorem textAtLeaves_input (kind : String) (index : Nat) (plugged : Element)
    (h : plugged.TextAtLeaves) : (input kind index plugged).TextAtLeaves :=
  ⟨.inr ⟨rfl, by decide⟩, h, trivial⟩

theorem allTextAtLeaves_append (front back : List Element) (hf : Element.AllTextAtLeaves front)
    (hb : Element.AllTextAtLeaves back) : Element.AllTextAtLeaves (front ++ back) := by
  induction front with
  | nil => exact hb
  | cons e front ih => exact ⟨hf.1, ih hf.2⟩

theorem textAtLeaves_values (index : Nat) (ps : List Parameter) :
    Element.AllTextAtLeaves (ofParameters index ps) := by
  induction ps generalizing index with
  | nil => trivial
  | cons p ps ih =>
    rw [ofParameters]
    cases p.value with
    | none => exact ih (index + 1)
    | some value => exact ⟨textAtLeaves_input _ _ _ (textAtLeaves_ofValue value), ih (index + 1)⟩

mutual

theorem textAtLeaves_ofTree (tree : Block) : (ofTree tree).TextAtLeaves := by
  match tree with
  | .scalar header =>
    exact ⟨.inr ⟨rfl, by decide⟩, textAtLeaves_ofHeader header none, textAtLeaves_values 0 _⟩
  | .object header slots =>
    exact ⟨.inr ⟨rfl, by decide⟩, textAtLeaves_ofHeader header (some slots.length),
      allTextAtLeaves_append _ _ (textAtLeaves_values 0 _) (textAtLeaves_ofSlots 0 slots)⟩

theorem textAtLeaves_ofSlots (index : Nat) (slots : List (Option Block)) :
    Element.AllTextAtLeaves (ofSlots index slots) := by
  match slots with
  | [] => trivial
  | none :: rest => exact textAtLeaves_ofSlots (index + 1) rest
  | some child :: rest =>
    exact ⟨textAtLeaves_input _ _ _ (textAtLeaves_ofTree child),
      textAtLeaves_ofSlots (index + 1) rest⟩

end

theorem root_laidOut (tree : Block) (laid : String)
    (h : Xml.LaidOut tree.toTreeText.toList laid.toList) : root laid = .ok (ofTree tree) := by
  rw [Block.toTreeText, Element.toText, String.toList_ofList] at h
  rw [root, Xml.parse_laidOut _ laid (readable_ofTree tree) (textAtLeaves_ofTree tree) h]

end Document

namespace Block

open Xml (Element)

theorem ofTreeText_eq_of_root (text laid : String) (h : Document.root laid = Document.root text) :
    ofTreeText laid = ofTreeText text := by
  rw [ofTreeText, ofTreeText, h]

/-- A tree that loads from its text loads from every layout of it: the same document is read, with
the text of every value as it was written, and the tree that comes of it differs from the one of the
plain text in the numbers of its blocks at most. -/
theorem ofTreeText_laidOut (tree kept : Block) (next : Nat) (laid : String)
    (hk : ((ofTreeText tree.toTreeText).run next).1 = .ok kept)
    (h : Xml.LaidOut tree.toTreeText.toList laid.toList) :
    Document.root laid = .ok (Document.ofTree tree) ∧
    (∀ start, (ofTreeText laid).run start = (ofTreeText tree.toTreeText).run start) ∧
    ∀ start, ∃ loaded, ((ofTreeText laid).run start).1 = .ok loaded ∧ kept.Renumbered loaded := by
  have hroot := Document.root_laidOut tree laid h
  have hplain : Document.root tree.toTreeText = .ok (Document.ofTree tree) :=
    Document.root_toText _ (Document.readable_ofTree tree)
  have hsame := ofTreeText_eq_of_root tree.toTreeText laid (hroot.trans hplain.symm)
  refine ⟨hroot, fun start => by rw [hsame], fun start => ?_⟩
  rw [run_ofTreeText_toTreeText] at hk
  rw [hsame, run_ofTreeText_toTreeText]
  exact Document.loadTree_again (Document.ofTree tree) next start kept hk

def blankValued : Block :=
  .object { Header.fresh { number := 4 } "e" "f" "T" with
    parameters := [{ name := "p", typeName := "S", value := some (.text "  ") }] } [none]

def blankValuedParts : List (List Char × List Char) :=
  [("<block type=\"gql\">".toList, "\n\t<!-- f > g -->\n\t".toList),
   ("<mutation gql_url=\"e\" gql_name=\"f\" gql_type=\"T\" gql_scalar=\"false\" gql_fields=\"1\">".toList,
    "\n\t\t".toList),
   ("<gql_parameter gql_name=\"p\" gql_type=\"S\"/></mutation>".toList, "\n".toList),
   ("<value name=\"GQL_PARAMETER0\"><block type=\"text\">".toList, " ".toList),
   ("<field name=\"TEXT\">  </field>".toList, "<?a value?>".toList),
   ("</block></value></block>".toList, "\n".toList)]

def blankValuedLaid : String :=
  String.ofList ("\n".toList ++ blankValuedParts.flatMap fun part => part.1 ++ part.2)

theorem filler_blankValuedParts : ∀ part ∈ blankValuedParts, Xml.Filler part.2 := by
  have hblank := Xml.blankText_of_blank
  intro part hp
  simp only [blankValuedParts, List.mem_cons, List.not_mem_nil, or_false] at hp
  rcases hp with rfl | rfl | rfl | rfl | rfl | rfl
  · exact .markup "\n\t".toList _ "\n\t".toList (hblank _ (by decide))
      (.comment " f > g ".toList (by decide)) (.blank _ (hblank _ (by decide)))
  · exact .blank _ (hblank _ (by decide))
  · exact .blank _ (hblank _ (by decide))
  · exact .blank _ (hblank _ (by decide))
  · exact .markup [] _ [] (hblank _ rfl) (.instruction "a value".toList (by decide))
      (.blank _ (hblank _ rfl))
  · exact .blank _ (hblank _ (by decide))

theorem laidOut_blankValued :
    Xml.LaidOut blankValued.toTreeText.toList blankValuedLaid.toList := by
  have hb : ∀ part ∈ blankValuedParts, Xml.Bracketed part.1 := by
    simp only [Xml.Bracketed]
    decide +kernel
  have hs := Xml.spaced_pieces blankValuedParts fun part hp =>
    ⟨hb part hp, filler_blankValuedParts part hp⟩
  have ht : blankValuedParts.flatMap Prod.fst = blankValued.toTreeText.toList := by
    rw [toTreeText, Element.toText, String.toList_ofList]
    decide +kernel
  rw [ht] at hs
  exact ⟨"\n".toList, _, by rw [blankValuedLaid, String.toList_ofList],
    .blank _ (Xml.blankText_of_blank _ (by decide)), hs⟩

theorem ofTreeText_laidOut_blankValued :
    ∃ kept, ((ofTreeText blankValued.toTreeText).run 1).1 = .ok kept ∧
      Xml.LaidOut blankValued.toTreeText.toList blankValuedLaid.toList ∧
      Document.root blankValuedLaid = .ok (Document.ofTree blankValued) ∧
      ∃ loaded, ((ofTreeText blankValuedLaid).run 1).1 = .ok loaded ∧ kept.Renumbered loaded := by
  have hc : blankValued.Countable := by unfold Countable; decide
  obtain ⟨kept, hk⟩ := (ofTreeText_toTreeText blankValued 1 hc).1.mpr (by decide)
  have hl := laidOut_blankValued
  have h := ofTreeText_laidOut blankValued kept 1 blankValuedLaid hk hl
  exact ⟨kept, hk, hl, h.1, h.2.2 1⟩

end Block

end QueryBlocks
