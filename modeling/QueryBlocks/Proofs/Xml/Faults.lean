import Mathlib.Tactic.SplitIfs
import QueryBlocks.Xml.Element

/-!
# No end tag comes too early

Scanning, attributes and escaped text have faults of their own, and an end tag without a start tag
is found before building sees it. The names of the open elements are the ones that the end tags are
held against, so building always has an element to close.
-/

set_option autoImplicit false

namespace QueryBlocks.Xml

def Fault.OfReading : Fault → Prop
  | .unbalancedEnd => False
  | .openElement => False
  | _ => True

theorem stepTag_ne_fail (quote : Option Char) (read : List Char) (c : Char) (fault : Fault) :
    stepTag quote read c ≠ .fail fault := by
  cases quote with
  | some q => simp [stepTag]
  | none =>
    unfold stepTag
    split_ifs <;> simp

theorem finishComment_fail (read : List Char) (fault : Fault)
    (h : finishComment read = .fail fault) : fault.OfReading := by
  unfold finishComment at h
  split_ifs at h
  cases h
  trivial

theorem finishCharacterData_fail (read : List Char) (fault : Fault)
    (h : finishCharacterData read = .fail fault) : fault.OfReading := by
  unfold finishCharacterData at h
  split_ifs at h
  cases h
  trivial

theorem finishDoctype_fail (read : List Char) (fault : Fault)
    (h : finishDoctype read = .fail fault) : fault.OfReading := by
  unfold finishDoctype at h
  simp only at h
  split_ifs at h
  · cases h
    trivial
  · cases h
    trivial

theorem stepMode_fail (mode : Mode) (c : Char) (fault : Fault) (h : stepMode mode c = .fail fault) :
    fault.OfReading := by
  cases mode with
  | text read => cases h
  | markup =>
    simp only [stepMode] at h
    split_ifs at h
    exact absurd h (stepTag_ne_fail none [] c fault)
  | bang =>
    simp only [stepMode] at h
    split_ifs at h
    cases h
    trivial
  | tag quote read => exact absurd h (stepTag_ne_fail quote read c fault)
  | comment read =>
    simp only [stepMode] at h
    split_ifs at h
    exact finishComment_fail read fault h
  | characterData read =>
    simp only [stepMode] at h
    split_ifs at h
    exact finishCharacterData_fail read fault h
  | doctype depth read =>
    simp only [stepMode] at h
    split_ifs at h
    exact finishDoctype_fail read fault h
  | instruction read =>
    simp only [stepMode] at h
    split_ifs at h
    cases h
    trivial

theorem openFault_ofReading (mode : Mode) (fault : Fault) (h : mode.openFault = some fault) :
    fault.OfReading := by
  cases mode <;> cases h <;> trivial

def FaultsOfReading (events : Events) : Prop :=
  ∀ fault, .error fault ∈ events → fault.OfReading

theorem faultsOfReading_nil : FaultsOfReading [] := fun _ h => absurd h List.not_mem_nil

theorem faultsOfReading_fault (fault : Fault) (h : fault.OfReading) :
    FaultsOfReading [.error fault] := by
  intro other ho
  cases List.mem_singleton.mp ho
  exact h

theorem faultsOfReading_event (event : Event) (rest : Events) (h : FaultsOfReading rest) :
    FaultsOfReading (.ok event :: rest) :=
  fun fault hf => h fault (by simpa using hf)

theorem faultsOfReading_textEvents (read : List Char) (rest : Events) (h : FaultsOfReading rest) :
    FaultsOfReading (textEvents read ++ rest) := by
  unfold textEvents
  split_ifs
  · exact h
  · exact faultsOfReading_event _ rest h

theorem faultsOfReading_scanFrom (mode : Mode) (cs : List Char) :
    FaultsOfReading (scanFrom mode cs) := by
  fun_induction scanFrom mode cs with
  | case1 read => simpa using faultsOfReading_textEvents read [] faultsOfReading_nil
  | case2 mode _ fault hf => exact faultsOfReading_fault fault (openFault_ofReading mode fault hf)
  | case3 => exact faultsOfReading_nil
  | case4 read rest ih => exact faultsOfReading_textEvents read _ ih
  | case5 mode c rest _ next hs ih => exact ih
  | case6 mode c rest _ event hs ih => exact faultsOfReading_event event _ ih
  | case7 mode c rest _ fault hs =>
    exact faultsOfReading_fault fault (stepMode_fail mode c fault hs)

theorem faultsOfReading_scan (cs : List Char) : FaultsOfReading (scan cs) := by
  cases cs with
  | nil => exact faultsOfReading_nil
  | cons c rest => exact faultsOfReading_scanFrom _ _

def FailsInReading {α : Type} (result : Except Fault α) : Prop :=
  ∀ fault, result = .error fault → fault.OfReading

theorem failsInReading_ok {α : Type} (value : α) :
    FailsInReading (.ok value : Except Fault α) := by
  intro fault h
  cases h

theorem failsInReading_error {α : Type} (fault : Fault) (h : fault.OfReading) :
    FailsInReading (.error fault : Except Fault α) := by
  intro other ho
  cases ho
  exact h

theorem failsInReading_bind {α β : Type} (first : Except Fault α)
    (thereafter : α → Except Fault β) (hf : FailsInReading first)
    (ht : ∀ value, FailsInReading (thereafter value)) : FailsInReading (first >>= thereafter) := by
  cases first with
  | error fault => exact failsInReading_error fault (hf fault rfl)
  | ok value => exact ht value

theorem failsInReading_attributeFault {α : Type} (cause : AttributeFault) :
    FailsInReading (attributeFault cause : Except Fault α) :=
  failsInReading_error _ trivial

theorem failsInReading_unescapeValue (raw : List Char) : FailsInReading (unescapeValue raw) := by
  unfold unescapeValue
  split
  · exact failsInReading_ok _
  · exact failsInReading_error _ trivial

theorem failsInReading_checkKey (found : Found) (start : Nat) (key : String) :
    FailsInReading (checkKey found start key) := by
  unfold checkKey
  split
  · exact failsInReading_attributeFault _
  · exact failsInReading_ok _

theorem failsInReading_readFrom (place start : Nat) (found : Found) (reading : Reading)
    (cs : List Char) : FailsInReading (readFrom place start found reading cs) := by
  fun_induction readFrom place start found reading cs
  case case1 => exact failsInReading_ok _
  case case8 ih =>
    exact failsInReading_bind _ _ (failsInReading_checkKey _ _ _) fun _ => ih
  case case12 ih =>
    exact failsInReading_bind _ _ (failsInReading_checkKey _ _ _) fun _ => ih
  case case17 ih => exact failsInReading_bind _ _ (failsInReading_unescapeValue _) ih
  -- what is left goes on with the next character, or has an attribute that is not well formed
  all_goals first
    | assumption
    | exact failsInReading_attributeFault _

theorem failsInReading_openElement (tag : Tag) : FailsInReading (openElement tag) :=
  failsInReading_bind _ _ (failsInReading_readFrom _ _ _ _ _) fun _ => failsInReading_ok _

theorem failsInReading_placeText (raw : List Char) (element : Element) :
    FailsInReading (placeText raw element) :=
  failsInReading_bind _ _ (failsInReading_unescapeValue raw) fun _ => failsInReading_ok _

theorem name_openElement (tag : Tag) (element : Element) (h : openElement tag = .ok element) :
    element.name.toList = tag.name := by
  unfold openElement at h
  cases ha : tag.attributes with
  | error fault =>
    rw [ha] at h
    cases h
  | ok attributes =>
    rw [ha] at h
    cases h
    exact String.toList_ofList

theorem name_placeText (raw : List Char) (element placed : Element)
    (h : placeText raw element = .ok placed) : placed.name = element.name := by
  obtain ⟨name, attributes, children, text⟩ := element
  unfold placeText at h
  cases hp : unescapeValue raw with
  | error fault =>
    rw [hp] at h
    cases h
  | ok piece =>
    rw [hp] at h
    cases h
    split_ifs <;> rfl

def openNames (opened : List Element) : List (List Char) := opened.map fun e => e.name.toList

theorem openNames_place (element : Element) (opened : List Element) (root : Option Element) :
    openNames (place element opened root).1 = openNames opened := by
  cases opened with
  | nil => rfl
  | cons parent below =>
    obtain ⟨name, attributes, children, text⟩ := parent
    rfl

theorem bind_ne_unbalancedEnd {α β : Type} (first : Except Fault α)
    (thereafter : α → Except Fault β) (hf : FailsInReading first)
    (ht : ∀ value, first = .ok value → thereafter value ≠ .error .unbalancedEnd) :
    (first >>= thereafter) ≠ .error .unbalancedEnd := by
  cases first with
  | error fault =>
    intro h
    cases h
    exact hf _ rfl
  | ok value => exact ht value rfl

/-- End tags are held against the names of the elements that are open, so there is one to close. -/
theorem build_ne_unbalancedEnd (scanned : Events) (opened : List Element) (root : Option Element)
    (h : FaultsOfReading scanned) :
    build opened root (matchTags (openNames opened) scanned) ≠ .error .unbalancedEnd := by
  induction scanned generalizing opened root with
  | nil =>
    rw [matchTags, build]
    split_ifs <;> simp
  | cons found rest ih =>
    have hrest : FaultsOfReading rest := fun fault hf => h fault (List.mem_cons_of_mem _ hf)
    cases found with
    | error fault =>
      have hfault := h fault List.mem_cons_self
      rintro heq
      cases heq
      exact hfault
    | ok event =>
      cases event with
      | start tag =>
        rw [matchTags, build]
        apply bind_ne_unbalancedEnd _ _ (failsInReading_openElement tag)
        intro element ho
        rw [← name_openElement tag element ho]
        exact ih (element :: opened) root hrest
      | empty tag =>
        rw [matchTags, build]
        · apply bind_ne_unbalancedEnd _ _ (failsInReading_openElement tag)
          intro element ho
          have hi := ih (place element opened root).1 (place element opened root).2 hrest
          rwa [openNames_place] at hi
        · simp
        · simp
      | close name =>
        cases opened with
        | nil => simp [openNames, matchTags, build]
        | cons element below =>
          rw [openNames, List.map_cons, matchTags]
          split_ifs
          · rw [build]
            have hi := ih (place element below root).1 (place element below root).2 hrest
            rwa [openNames_place] at hi
          · simp [build]
      | text raw =>
        cases opened with
        | nil =>
          rw [matchTags, build]
          · exact ih [] root hrest
          · simp
          · simp
        | cons element below =>
          rw [matchTags, build]
          · apply bind_ne_unbalancedEnd _ _ (failsInReading_placeText raw element)
            intro placed hp
            have hi := ih (placed :: below) root hrest
            rwa [openNames, List.map_cons, name_placeText raw element placed hp] at hi
          · simp
          · simp
      | skipped =>
        rw [matchTags, build]
        · exact ih opened root hrest
        · simp
        · simp

theorem parse_ne_unbalancedEnd (text : String) : parse text ≠ .error .unbalancedEnd :=
  build_ne_unbalancedEnd (scan text.toList) [] none (faultsOfReading_scan text.toList)

end QueryBlocks.Xml
