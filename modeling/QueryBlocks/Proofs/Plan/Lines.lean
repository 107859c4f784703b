import Mathlib.Data.List.InsertIdx
import QueryBlocks.Proofs.Block.Slots
import QueryBlocks.Proofs.Plan.Dependence
import QueryBlocks.Proofs.Plan.Printing

/-!
# The line of a slot

A block in a slot, at any depth of a tree, has its text between an indentation and the end of a
line. To empty or remove the slot takes out this text and no other. A slot without text has no
part even in the plan.
-/

set_option autoImplicit false

namespace QueryBlocks

namespace Text

def lines (text : String) : List String := (text.toList.splitOn '\n').map String.ofList

def EndsLine (text : String) : Prop := ∃ above, text = above ++ "\n"

theorem lines_append (above below : String) :
    lines (above ++ "\n" ++ below) = lines above ++ lines below := by
  have h : (above ++ "\n" ++ below).toList = above.toList ++ '\n' :: below.toList := by
    simp [String.toList_append]
  rw [lines, h, List.splitOn_append_cons_self, List.map_append]
  rfl

theorem lines_single (text : String) (h : '\n' ∉ text.toList) : lines text = [text] := by
  rw [lines, List.splitOn_eq_singleton h, List.map_singleton, String.ofList_toList]

theorem endsLine_append (text more : String) (h : EndsLine more) : EndsLine (text ++ more) := by
  obtain ⟨above, rfl⟩ := h
  exact ⟨text ++ above, (String.append_assoc ..).symm⟩

/-- A line between two parts of a text is one of its lines, and the others are those of the text
without it. -/
theorem lines_between (before line after : String) (hb : EndsLine before)
    (hl : '\n' ∉ line.toList) :
    ∃ above below, lines (before ++ line ++ "\n" ++ after) = above ++ line :: below ∧
      lines (before ++ after) = above ++ below := by
  obtain ⟨above, rfl⟩ := hb
  refine ⟨lines above, lines after, ?_, lines_append above after⟩
  have h : above ++ "\n" ++ line ++ "\n" ++ after = above ++ "\n" ++ (line ++ "\n" ++ after) := by
    simp only [String.append_assoc]
  rw [h, lines_append, lines_append, lines_single line hl, List.singleton_append]

end Text

open Text (EndsLine)

namespace Block

theorem printedLines_append (slots more : List (Option Block)) :
    printedLines (slots ++ more) = printedLines slots ++ printedLines more := by
  induction slots with
  | nil => rw [List.nil_append, printedLines, String.empty_append]
  | cons slot slots ih =>
    cases slot with
    | none => exact ih
    | some child => rw [List.cons_append, printedLines, printedLines, ih, ← String.append_assoc]

theorem printedLines_some (child : Block) (rest : List (Option Block)) (h : child.printed ≠ "") :
    printedLines (some child :: rest) = "  " ++ child.printed ++ "\n" ++ printedLines rest := by
  rw [printedLines, if_neg h]

theorem endsLine_printedLines (before : String) (slots : List (Option Block))
    (h : EndsLine before) : EndsLine (before ++ printedLines slots) := by
  induction slots generalizing before with
  | nil => simpa [printedLines] using h
  | cons slot rest ih =>
    cases slot with
    | none => exact ih before h
    | some child =>
      rw [printedLines, ← String.append_assoc]
      apply ih
      by_cases hc : child.printed = ""
      · simpa [hc] using h
      · rw [if_neg hc]
        exact Text.endsLine_append _ _ ⟨_, rfl⟩

def opening (header : Header) : String :=
  header.field ++ printedArguments header.parameters ++ " \x7b\n"

theorem printed_object (header : Header) (slots : List (Option Block)) :
    (Block.object header slots).printed = opening header ++ printedLines slots ++ "\x7d\n" := by
  rw [printed, opening]

theorem endsLine_opening (header : Header) : EndsLine (opening header) :=
  Text.endsLine_append _ _ ⟨" \x7b", rfl⟩

/-- An edit at a place changes the text of the block there, and nothing around it. -/
theorem printed_edited (path : List Nat) (tree block : Block) (h : atPath? path tree = some block)
    (hb : block.printed ≠ "") :
    ∃ before after, tree.printed = before ++ block.printed ++ after ∧
      ∀ {ρ : Type} (f : Block → ρ × Block) (result : ρ) (edited : Block),
        editPath? f path tree = some (result, edited) → (f block).2.printed ≠ "" →
          edited.printed = before ++ (f block).2.printed ++ after := by
  induction path generalizing tree with
  | nil =>
    cases h
    refine ⟨"", "", by simp, fun f result edited he _ => ?_⟩
    have hf : f block = (result, edited) := Option.some.inj he
    simp [hf]
  | cons index path ih =>
    rw [atPath?_cons, Option.bind_eq_some_iff] at h
    obtain ⟨child, hc, hp⟩ := h
    obtain ⟨before, after, hchild, hedit⟩ := ih child hp
    rw [child?_eq_some_iff] at hc
    cases tree with
    | scalar header => cases hc
    | object header slots =>
      obtain ⟨left, right, rfl, rfl⟩ := slots_around slots index (some child) hc
      have hline (line : Block) (text : String) (ht : line.printed = before ++ text ++ after)
          (hn : text ≠ "") : (Block.object header (left ++ some line :: right)).printed =
            opening header ++ printedLines left ++ "  " ++ before ++ text ++
              (after ++ "\n" ++ printedLines right ++ "\x7d\n") := by
        have hne : line.printed ≠ "" := by simp [ht, hn]
        rw [printed_object, printedLines_append, printedLines_some line right hne, ht]
        simp only [String.append_assoc]
      refine ⟨opening header ++ printedLines left ++ "  " ++ before,
        after ++ "\n" ++ printedLines right ++ "\x7d\n", hline child _ hchild hb, ?_⟩
      intro ρ f result edited he hf
      obtain ⟨_, _, old, new, heq, hold, hnew, rfl⟩ :=
        editPath?_cons f left.length path _ edited result he
      cases heq
      have hsame : old = child := by simpa using hold.symm
      rw [hsame] at hnew
      have hset : (left ++ some child :: right).set left.length (some new) =
          left ++ some new :: right := by simp
      rw [hset]
      exact hline new _ (hedit f result new hnew hf) hf

/-- An edit of slots changes the lines of the slots, and nothing around them. -/
theorem printed_slots (path : List Nat) (tree : Block) (header : Header)
    (slots : List (Option Block)) (h : atPath? path tree = some (.object header slots)) :
    ∃ before after, EndsLine before ∧ tree.printed = before ++ printedLines slots ++ after ∧
      ∀ {ρ : Type} (edit : Block → Except SlotError (ρ × Block)) (result : ρ)
        (others : List (Option Block)) (edited : Block),
        edit (.object header slots) = .ok (result, .object header others) →
          EditsTo edit path tree edited →
            edited.printed = before ++ printedLines others ++ after := by
  obtain ⟨before, after, ht, hedit⟩ :=
    printed_edited path tree _ h (printed_object_ne header slots)
  refine ⟨before ++ opening header, "\x7d\n" ++ after,
    Text.endsLine_append _ _ (endsLine_opening header), ?_, ?_⟩
  · rw [ht, printed_object]
    simp only [String.append_assoc]
  · intro ρ edit result others edited he hto
    obtain ⟨found, hto⟩ := hto
    have ha := attempt_of_ok edit _ _ result he
    have hp := hedit (attempt edit) _ edited hto
    rw [ha] at hp
    rw [hp (printed_object_ne header others), printed_object]
    simp only [String.append_assoc]

/-- A slot without text: an empty one, or one that holds a scalar block with an empty field. -/
def Blank : Option Block → Prop
  | none => True
  | some (.scalar header) => header.field = ""
  | some (.object _ _) => False

theorem lines_append (slots more : List (Option Block)) :
    lines (slots ++ more) = lines slots ++ lines more := by
  induction slots with
  | nil => rfl
  | cons slot slots ih =>
    cases slot with
    | none => exact ih
    | some child =>
      rw [List.cons_append, lines, lines, ih]
      by_cases he : child.fragment.isEmpty = true
      · simp [he]
      · simp [he]

theorem lines_blank (slot : Option Block) (rest : List (Option Block)) (h : Blank slot) :
    lines (slot :: rest) = lines rest := by
  cases slot with
  | none => rfl
  | some child =>
    cases child with
    | scalar header =>
      have he : (Block.scalar header).fragment.isEmpty = true := String.isEmpty_iff.mpr h
      rw [lines, if_pos he]
    | object header slots => exact h.elim

theorem lines_insertIdx (slots : List (Option Block)) (index : Nat) (slot : Option Block)
    (h : Blank slot) : lines (slots.insertIdx index slot) = lines slots := by
  induction slots generalizing index with
  | nil =>
    cases index with
    | zero => exact lines_blank slot [] h
    | succ index => rfl
  | cons first rest ih =>
    cases index with
    | zero => exact lines_blank slot (first :: rest) h
    | succ index =>
      have hr := congrArg (lines [first] ++ ·) (ih index)
      rwa [← lines_append, ← lines_append] at hr

theorem lines_eraseIdx (slots : List (Option Block)) (index : Nat) (slot : Option Block)
    (hs : slots[index]? = some slot) (h : Blank slot) :
    lines (slots.eraseIdx index) = lines slots := by
  obtain ⟨before, after, rfl, rfl⟩ := slots_around slots index slot hs
  rw [eraseIdx_around, lines_append, lines_append, lines_blank slot after h]

theorem lines_set (slots : List (Option Block)) (index : Nat) (slot other : Option Block)
    (hs : slots[index]? = some slot) (h : Blank slot) (ho : Blank other) :
    lines (slots.set index other) = lines slots := by
  obtain ⟨before, after, rfl, rfl⟩ := slots_around slots index slot hs
  have he : (before ++ slot :: after).set before.length other = before ++ other :: after := by
    simp
  rw [he, lines_append, lines_append, lines_blank slot after h, lines_blank other after ho]

/-- An edit that leaves the plan of the block at a place leaves the plan of the tree. -/
theorem fragment_edited {ρ : Type} (f : Block → ρ × Block) (path : List Nat)
    (tree edited : Block) (result : ρ)
    (hf : ∀ block, atPath? path tree = some block → (f block).2.fragment = block.fragment)
    (h : editPath? f path tree = some (result, edited)) : edited.fragment = tree.fragment := by
  induction path generalizing tree edited with
  | nil =>
    have hs : f tree = (result, edited) := Option.some.inj h
    rw [← hf tree rfl, hs]
  | cons index path ih =>
    obtain ⟨header, slots, child, new, rfl, hc, hnew, rfl⟩ :=
      editPath?_cons f index path tree edited result h
    have hat : (Block.object header slots).child? index = some child :=
      (child?_eq_some_iff _ index child).mpr hc
    have hchild : new.fragment = child.fragment := by
      refine ih child new (fun block hb => hf block ?_) hnew
      rw [atPath?_cons, hat]
      exact hb
    obtain ⟨before, after, rfl, rfl⟩ := slots_around slots index (some child) hc
    rw [fragment, fragment]
    congr 4
    apply lines_congr
    simp [hchild]

/-- An edit of slots that leaves the plan of their lines leaves the plan of the tree. -/
theorem compile_edited {ρ : Type} (edit : Block → Except SlotError (ρ × Block)) (result : ρ)
    (path : List Nat) (tree edited : Block) (header : Header) (slots others : List (Option Block))
    (h : atPath? path tree = some (.object header slots))
    (he : edit (.object header slots) = .ok (result, .object header others))
    (hl : lines others = lines slots) (hto : EditsTo edit path tree edited) :
    edited.compile = tree.compile := by
  obtain ⟨found, hto⟩ := hto
  have hf : ∀ block, atPath? path tree = some block →
      (attempt edit block).2.fragment = block.fragment := by
    intro block hb
    rw [h] at hb
    cases hb
    rw [attempt_of_ok edit _ _ result he, fragment, fragment, hl]
  rw [compile, compile, fragment_edited (attempt edit) path tree edited _ hf hto]

theorem exists_compile_eq {ρ : Type} (edit : Block → Except SlotError (ρ × Block)) (result : ρ)
    (path : List Nat) (tree : Block) (header : Header) (slots others : List (Option Block))
    (h : atPath? path tree = some (.object header slots))
    (he : edit (.object header slots) = .ok (result, .object header others))
    (hl : lines others = lines slots) :
    ∃ edited, EditsTo edit path tree edited ∧ edited.compile = tree.compile := by
  obtain ⟨edited, hto, -⟩ := exists_editsTo edit path tree _ _ result h he
  exact ⟨edited, hto, compile_edited edit result path tree edited header slots others h he hl hto⟩

def plantSlot (index : Nat) (slot : Option Block) (block : Block) :
    Except SlotError (Unit × Block) := do
  let (_, widened) ← block.addSlot index
  match slot with
  | none => return ((), widened)
  | some child =>
    let (_, filled) ← widened.fillSlot index child
    return ((), filled)

theorem plantSlot_object (header : Header) (slots : List (Option Block)) (index : Nat)
    (slot : Option Block) (h : index ≤ slots.length) :
    (Block.object header slots).plantSlot index slot =
      .ok ((), .object header (slots.insertIdx index slot)) := by
  rw [plantSlot, addSlot_object, if_pos h]
  cases slot with
  | none => rfl
  | some child =>
    change (do let (_, filled) ← fillSlot _ index child; return ((), filled)) = _
    rw [fillSlot_insertIdx header slots index child h]
    rfl

/-- To remove a slot or to empty it takes out the line of what it holds. -/
theorem printed_removed (tree : Block) (path : List Nat) (header : Header)
    (slots : List (Option Block)) (h : atPath? path tree = some (.object header slots))
    (index : Nat) (child : Block) (hs : slots[index]? = some (some child))
    (hc : child.printed ≠ "") :
    ∃ before after removed emptied, EndsLine before ∧
      tree.printed = before ++ "  " ++ child.printed ++ "\n" ++ after ∧
      EditsTo (fun block => block.removeSlot index) path tree removed ∧
      EditsTo (fun block => block.addSlot index) path removed emptied ∧
      atPath? path emptied = some (.object header (slots.set index none)) ∧
      removed.printed = before ++ after ∧ emptied.printed = before ++ after := by
  obtain ⟨before, after, hend, htree, hedit⟩ := printed_slots path tree header slots h
  have hremove := removeSlot_object header slots index (some child) hs
  obtain ⟨removed, hto, hat⟩ := exists_editsTo (fun block => block.removeSlot index) path tree
    _ _ (some child) h hremove
  obtain ⟨hi, -⟩ := List.getElem?_eq_some_iff.mp hs
  have hle : index ≤ (slots.eraseIdx index).length := by
    rw [List.length_eraseIdx_of_lt hi]
    omega
  have hadd : (Block.object header (slots.eraseIdx index)).addSlot index =
      .ok ((), .object header (slots.set index none)) := by
    rw [addSlot_object, if_pos hle, List.insertIdx_eraseIdx_self (Nat.ne_of_lt hi)]
  obtain ⟨emptied, hthen, hempty⟩ := exists_editsTo (fun block => block.addSlot index) path
    removed _ _ () hat hadd
  have hplan : emptied.compile = removed.compile := by
    refine compile_edited _ () path removed emptied header _ _ hat hadd ?_ hthen
    rw [← List.insertIdx_eraseIdx_self (Nat.ne_of_lt hi), lines_insertIdx _ index none trivial]
  have hremoved := hedit _ (some child) _ removed hremove hto
  obtain ⟨left, right, rfl, rfl⟩ := slots_around slots index (some child) hs
  have herase : (left ++ some child :: right).eraseIdx left.length = left ++ right := by
    simp [List.eraseIdx_append_of_length_le]
  rw [herase, printedLines_append, ← String.append_assoc, String.append_assoc] at hremoved
  refine ⟨before ++ printedLines left, printedLines right ++ after, removed, emptied,
    endsLine_printedLines before left hend, ?_, hto, hthen, hempty, hremoved, ?_⟩
  · rw [htree, printedLines_append, printedLines_some child right hc]
    simp only [String.append_assoc]
  · rw [← render_compile, hplan, render_compile, hremoved]

/-- What a slot of an object block, at any depth, has to do with the text of the tree. If the slot
holds a block with a text, this text stands between two blanks and the end of a line; to remove the
slot or to empty it leaves what is before and what is behind, and a scalar block without a line
feed takes exactly one line with it. Slots without text come and go, and are filled without text,
with no change of the plan. -/
theorem slots_in_text (tree : Block) (path : List Nat) (header : Header)
    (slots : List (Option Block)) (h : atPath? path tree = some (.object header slots)) :
    (∀ index child, slots[index]? = some (some child) → child.compile.render ≠ "" →
      ∃ before after removed emptied,
        tree.compile.render = before ++ "  " ++ child.compile.render ++ "\n" ++ after ∧
        EditsTo (fun block => block.removeSlot index) path tree removed ∧
        EditsTo (fun block => block.addSlot index) path removed emptied ∧
        atPath? path emptied = some (.object header (slots.set index none)) ∧
        removed.compile.render = before ++ after ∧ emptied.compile.render = before ++ after ∧
        ∀ leaf, child = .scalar leaf → '\n' ∉ leaf.field.toList →
          ∃ above below,
            Text.lines tree.compile.render = above ++ ("  " ++ leaf.field) :: below ∧
              Text.lines emptied.compile.render = above ++ below) ∧
    (∀ index slot, index ≤ slots.length → Blank slot →
      ∃ edited, EditsTo (plantSlot index slot) path tree edited ∧
        edited.compile = tree.compile) ∧
    (∀ index slot, slots[index]? = some slot → Blank slot →
      ∃ edited, EditsTo (fun block => block.removeSlot index) path tree edited ∧
        edited.compile = tree.compile) ∧
    ∀ index slot child, slots[index]? = some slot → Blank slot → Blank (some child) →
      ∃ edited, EditsTo (fun block => block.fillSlot index child) path tree edited ∧
        edited.compile = tree.compile := by
  refine ⟨fun index child hs hc => ?_, fun index slot hi hb => ?_, fun index slot hs hb => ?_,
    fun index slot child hs hb hc => ?_⟩
  · rw [render_compile] at hc
    obtain ⟨before, after, removed, emptied, hend, htree, hto, hthen, hat, hremoved, hemptied⟩ :=
      printed_removed tree path header slots h index child hs hc
    refine ⟨before, after, removed, emptied, ?_, hto, hthen, hat, ?_, ?_, ?_⟩
    · rw [render_compile, render_compile, htree]
    · rw [render_compile, hremoved]
    · rw [render_compile, hemptied]
    · rintro leaf rfl hn
      have hline : '\n' ∉ ("  " ++ leaf.field).toList := by simpa using hn
      rw [render_compile, render_compile, htree, hemptied, printed]
      have hl := Text.lines_between before ("  " ++ leaf.field) after hend hline
      rwa [← String.append_assoc] at hl
  · exact exists_compile_eq _ _ path tree header slots _ h
      (plantSlot_object header slots index slot hi) (lines_insertIdx slots index slot hb)
  · exact exists_compile_eq _ _ path tree header slots _ h
      (removeSlot_object header slots index slot hs) (lines_eraseIdx slots index slot hs hb)
  · exact exists_compile_eq _ _ path tree header slots _ h
      (fillSlot_object header slots index slot child hs)
      (lines_set slots index slot (some child) hs hb hc)

def ownerHeader (field : String) : Header :=
  Header.fresh { number := 1 } "https://poke.example/graphql" field "Owner"

def ownerSlots : List (Option Block) :=
  [some (.scalar (ownerHeader "name")), none, some (.scalar (ownerHeader ""))]

def ownerTree : Block :=
  .object (ownerHeader "pokemon") [none, some (.object (ownerHeader "owner") ownerSlots)]

theorem slots_in_text_ownerTree :
    atPath? [1] ownerTree = some (.object (ownerHeader "owner") ownerSlots) ∧
    (∃ before after removed emptied,
      ownerTree.compile.render = before ++ "  " ++ "name" ++ "\n" ++ after ∧
        EditsTo (fun block => block.removeSlot 0) [1] ownerTree removed ∧
        EditsTo (fun block => block.addSlot 0) [1] removed emptied ∧
        removed.compile.render = before ++ after ∧ emptied.compile.render = before ++ after ∧
        ∃ above below, Text.lines ownerTree.compile.render = above ++ "  name" :: below ∧
          Text.lines emptied.compile.render = above ++ below) ∧
    (∃ edited, EditsTo (plantSlot 3 none) [1] ownerTree edited ∧
      edited.compile = ownerTree.compile) ∧
    (∃ edited, EditsTo (fun block => block.removeSlot 2) [1] ownerTree edited ∧
      edited.compile = ownerTree.compile) ∧
    ∃ edited, EditsTo (fun block => block.fillSlot 1 (.scalar (ownerHeader ""))) [1] ownerTree
      edited ∧ edited.compile = ownerTree.compile := by
  obtain ⟨hline, hplant, hremove, hfill⟩ :=
    slots_in_text ownerTree [1] (ownerHeader "owner") ownerSlots rfl
  refine ⟨rfl, ?_, hplant 3 none (by decide) trivial, hremove 2 _ rfl rfl,
    hfill 1 none _ rfl trivial rfl⟩
  obtain ⟨before, after, removed, emptied, htree, hto, hthen, -, hremoved, hemptied, hlines⟩ :=
    hline 0 (.scalar (ownerHeader "name")) rfl (by decide)
  exact ⟨before, after, removed, emptied, htree, hto, hthen, hremoved, hemptied,
    hlines _ rfl (by decide)⟩

end Block

end QueryBlocks
