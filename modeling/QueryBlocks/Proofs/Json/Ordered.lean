import Mathlib.Tactic.SplitIfs
import QueryBlocks.Json.Reader
import QueryBlocks.Proofs.Data.Dictionary

/-!
# Objects that are read are in order

Whatever a text gives, at every level: the keys of an object are in ascending order, so no key
is there twice. The open containers of the reader are in order after each character, and so is
every value that it completes.
-/

set_option autoImplicit false

namespace QueryBlocks.Json

def Sorted (members : List (String × Json)) : Prop :=
  members.Pairwise fun a b => Text.precedes a.1 b.1 = true

inductive Ordered : Json → Prop where
  | null : Ordered .null
  | boolean (value : Bool) : Ordered (.boolean value)
  | integer (value : Int) : Ordered (.integer value)
  | float (value : Binary64) : Ordered (.float value)
  | string (value : String) : Ordered (.string value)
  | array (items : List Json) (h : ∀ item ∈ items, Ordered item) : Ordered (.array items)
  | object (members : List (String × Json)) (sorted : Sorted members)
      (h : ∀ m ∈ members, Ordered m.2) : Ordered (.object members)

theorem nodup_of_sorted (members : List (String × Json)) (h : Sorted members) :
    (members.map Prod.fst).Nodup :=
  Dictionary.nodup_of_ascending members h

/-- A member finds its place as an entry of a dictionary does. -/
theorem insertMember_eq (key : String) (value : Json) (members : List (String × Json)) :
    insertMember key value members = Dictionary.insertEntry key value members := by
  induction members with
  | nil => rfl
  | cons first rest ih =>
    obtain ⟨k, v⟩ := first
    rw [insertMember, Dictionary.insertEntry, ih]
    simp only [eq_comm]

theorem mem_insertMember (key : String) (value : Json) (members : List (String × Json))
    (m : String × Json) (h : m ∈ insertMember key value members) :
    m = (key, value) ∨ m ∈ members := by
  rw [insertMember_eq] at h
  exact Dictionary.mem_insertEntry key value members m h

theorem sorted_insertMember (key : String) (value : Json) (members : List (String × Json))
    (h : Sorted members) : Sorted (insertMember key value members) := by
  rw [insertMember_eq]
  exact Dictionary.ascending_insertEntry key value members h

def Open.Ordered : Open → Prop
  | .array items => ∀ item ∈ items, item.Ordered
  | .object members _ => Sorted members ∧ ∀ m ∈ members, m.2.Ordered

def Mode.Ordered : Mode → Prop
  | .literal _ found => found.Ordered
  | .done found => found.Ordered
  | _ => True

structure Reader.Ordered (reader : Reader) : Prop where
  stack : ∀ container ∈ reader.stack, container.Ordered
  mode : reader.mode.Ordered

def Keeps (step : Step) : Prop := ∀ next, step = .ok next → next.Ordered

theorem keeps_error (fault : Fault) : Keeps (.error fault) := fun _ h => nomatch h

theorem keeps_ok (reader : Reader) (h : reader.Ordered) : Keeps (.ok reader) := by
  intro next hn
  cases hn
  exact h

theorem ordered_complete (stack : List Open) (value : Json)
    (hs : ∀ container ∈ stack, container.Ordered) (hv : value.Ordered) :
    (complete stack value).Ordered := by
  match stack with
  | [] => exact ⟨hs, hv⟩
  | .array items :: rest =>
    obtain ⟨hi, hr⟩ := List.forall_mem_cons.mp hs
    exact ⟨List.forall_mem_cons.mpr ⟨List.forall_mem_cons.mpr ⟨hv, hi⟩, hr⟩, trivial⟩
  | .object members key :: rest =>
    obtain ⟨⟨hsorted, hm⟩, hr⟩ := List.forall_mem_cons.mp hs
    refine ⟨List.forall_mem_cons.mpr ⟨⟨sorted_insertMember key value members hsorted, ?_⟩, hr⟩,
      trivial⟩
    -- an earlier member of the same key is gone, the others are as they were
    intro m hmem
    rcases mem_insertMember key value members m hmem with rfl | hmem
    · exact hv
    · exact hm m hmem

theorem keeps_startValue (depth : Nat) (stack : List Open) (c : Char)
    (hs : ∀ container ∈ stack, container.Ordered) : Keeps (startValue depth stack c) := by
  have hnumber (stage : NumberStage) (text : NumberText) :
      Keeps (.ok { stack, mode := .number stage text }) := keeps_ok _ ⟨hs, trivial⟩
  have hliteral (rest : List Char) (value : Json) (hv : value.Ordered) :
      Keeps (.ok { stack, mode := .literal rest value }) := keeps_ok _ ⟨hs, hv⟩
  unfold startValue
  split_ifs
  · exact keeps_ok _ ⟨hs, trivial⟩
  · exact keeps_ok _ ⟨List.forall_mem_cons.mpr ⟨fun _ h => (nomatch h), hs⟩, trivial⟩
  · exact keeps_error _
  · exact keeps_ok _ ⟨List.forall_mem_cons.mpr ⟨⟨.nil, fun _ h => (nomatch h)⟩, hs⟩, trivial⟩
  · exact keeps_error _
  · exact hnumber _ _
  · exact hnumber _ _
  · exact hnumber _ _
  · exact hliteral _ _ (.boolean true)
  · exact hliteral _ _ (.boolean false)
  · exact hliteral _ _ .null
  · exact keeps_error _

theorem keeps_afterValue (reader : Reader) (c : Char) (h : reader.Ordered) :
    Keeps (afterValue reader c) := by
  unfold afterValue
  split
  · exact keeps_ok _ h
  · split
    · exact keeps_error _
    · next items rest heq =>
      have hs := h.stack
      rw [heq] at hs
      obtain ⟨hi, hr⟩ := List.forall_mem_cons.mp hs
      split_ifs
      · exact keeps_ok _ (ordered_complete rest _ hr
          (.array _ fun item hm => hi item (List.mem_reverse.mp hm)))
      · exact keeps_ok _ ⟨h.stack, trivial⟩
      · exact keeps_error _
    · next members key rest heq =>
      have hs := h.stack
      rw [heq] at hs
      obtain ⟨⟨hsorted, hm⟩, hr⟩ := List.forall_mem_cons.mp hs
      split_ifs
      · exact keeps_ok _ (ordered_complete rest _ hr (.object members hsorted hm))
      · exact keeps_ok _ ⟨h.stack, trivial⟩
      · exact keeps_error _

theorem keeps_closeEmpty (reader : Reader) (h : reader.Ordered) : Keeps (closeEmpty reader) := by
  have hs := h.stack
  unfold closeEmpty
  split
  · next items rest heq =>
    rw [heq] at hs
    exact keeps_ok _ (ordered_complete rest _ (List.forall_mem_cons.mp hs).2
      (.array [] fun _ h => nomatch h))
  · next members key rest heq =>
    rw [heq] at hs
    exact keeps_ok _ (ordered_complete rest _ (List.forall_mem_cons.mp hs).2
      (.object [] .nil fun _ h => nomatch h))
  · exact keeps_error _

theorem keeps_stepString (stack : List Open) (isKey : Bool) (text : List Char) (escape : Escape)
    (c : Char) (hs : ∀ container ∈ stack, container.Ordered) :
    Keeps (stepString stack isKey text escape c) := by
  have hstay (text : List Char) (escape : Escape) :
      Keeps (.ok { stack, mode := .string isKey text escape }) := keeps_ok _ ⟨hs, trivial⟩
  cases escape with
  | none =>
    simp only [stepString]
    split_ifs
    · exact keeps_ok _ ⟨hs, trivial⟩
    · exact keeps_ok _ (ordered_complete stack _ hs (.string _))
    · exact hstay _ _
    · exact keeps_error _
    · exact hstay _ _
  | started =>
    simp only [stepString]
    split
    · exact hstay _ _
    · cases simpleEscape c with
      | some plain => exact hstay _ _
      | none => exact keeps_error _
  | hex high digits =>
    simp only [stepString]
    split
    · exact hstay _ _
    · cases Text.readInBase 16 (digits ++ [c]) with
      | none => exact keeps_error _
      | some code =>
        simp only
        cases finishHex high code with
        | error cause => exact keeps_error _
        | ok read => cases read <;> exact hstay _ _
  | pairBackslash high =>
    simp only [stepString]
    split
    · exact hstay _ _
    · exact keeps_error _
  | pairMark high =>
    simp only [stepString]
    split
    · exact hstay _ _
    · exact keeps_error _

theorem ordered_numberValue (text : NumberText) (value : Json) (h : numberValue text = some value) :
    value.Ordered := by
  have hfloat (x : Json) (hx : floatValue text = some x) : x.Ordered := by
    obtain ⟨y, -, rfl⟩ := Option.map_eq_some_iff.mp hx
    exact .float _
  unfold numberValue at h
  split at h
  · simp only at h
    split_ifs at h
    · cases h
      exact .integer _
    · cases h
      exact .integer _
    · exact hfloat value h
  · exact hfloat value h

theorem keeps_completeNumber (stack : List Open) (text : NumberText)
    (hs : ∀ container ∈ stack, container.Ordered) : Keeps (completeNumber stack text) := by
  unfold completeNumber
  split
  · next value hv => exact keeps_ok _ (ordered_complete stack value hs (ordered_numberValue _ _ hv))
  · exact keeps_error _

theorem keeps_stepNumber (stack : List Open) (stage : NumberStage) (text : NumberText) (c : Char)
    (hs : ∀ container ∈ stack, container.Ordered) :
    Keeps (stepNumber stack stage text c) := by
  have hnext (stage : NumberStage) (text : NumberText) :
      Keeps (.ok { stack, mode := .number stage text }) := keeps_ok _ ⟨hs, trivial⟩
  have hfinish : Keeps (completeNumber stack text >>= fun closed => afterValue closed c) := by
    have hc := keeps_completeNumber stack text hs
    cases h : completeNumber stack text with
    | error fault => exact keeps_error _
    | ok closed => exact keeps_afterValue closed c (hc closed h)
  unfold stepNumber
  cases stage <;> simp only <;> split_ifs <;>
    first
      | exact keeps_error _
      | exact hnext _ _
      | exact hfinish

/-- One character keeps the reader in order. -/
theorem keeps_step (depth : Nat) (reader : Reader) (c : Char) (h : reader.Ordered) :
    Keeps (step depth reader c) := by
  obtain ⟨stack, mode⟩ := reader
  have hs : ∀ container ∈ stack, container.Ordered := h.stack
  unfold step
  cases mode with
  | value first =>
    simp only
    split
    · exact keeps_ok _ h
    · split
      · split
        · exact keeps_closeEmpty _ h
        · exact keeps_error _
      · exact keeps_startValue depth _ c hs
  | key first =>
    simp only
    split_ifs
    · exact keeps_ok _ h
    · exact keeps_ok _ ⟨hs, trivial⟩
    · exact keeps_closeEmpty _ h
    · exact keeps_error _
    · exact keeps_error _
  | colon key =>
    simp only
    split_ifs
    · exact keeps_ok _ h
    · refine keeps_ok _ ⟨?_, trivial⟩
      cases stack with
      | nil => exact hs
      | cons container rest =>
        have hparts := List.forall_mem_cons.mp hs
        cases container <;> exact List.forall_mem_cons.mpr ⟨hparts.1, hparts.2⟩
    · exact keeps_error _
  | afterValue => exact keeps_afterValue _ c h
  | string isKey text escape => exact keeps_stepString stack isKey text escape c hs
  | number stage text => exact keeps_stepNumber stack stage text c hs
  | literal rest value =>
    cases rest with
    | nil => exact keeps_error _
    | cons expected rest =>
      simp only
      split_ifs
      · exact keeps_error _
      · exact keeps_ok _ (ordered_complete stack value hs h.mode)
      · exact keeps_ok _ ⟨hs, h.mode⟩
  | done value =>
    simp only
    split_ifs
    · exact keeps_ok _ h
    · exact keeps_error _

theorem ordered_run (depth : Nat) (text : List Char) (place stop : Place) (reader last : Reader)
    (h : reader.Ordered) (hr : run depth text place reader = .ok (last, stop)) : last.Ordered := by
  induction text generalizing place reader with
  | nil =>
    cases hr
    exact h
  | cons c text ih =>
    rw [run] at hr
    cases hn : step depth reader c with
    | error fault =>
      rw [hn] at hr
      cases hr
    | ok next =>
      rw [hn] at hr
      exact ih _ next (keeps_step depth reader c h next hn) hr

theorem ordered_finish (reader : Reader) (value : Json) (h : reader.Ordered)
    (hf : finish reader = .ok value) : value.Ordered := by
  obtain ⟨stack, mode⟩ := reader
  unfold finish at hf
  cases mode with
  | done found =>
    cases hf
    exact h.mode
  | number stage text =>
    simp only at hf
    split at hf
    · split at hf
      · next found stack' hc =>
        cases hf
        exact (keeps_completeNumber stack text h.stack _ hc).mode
      · cases hf
      · cases hf
    · cases hf
  | _ => cases hf

/-- What is read from a text is in order. -/
theorem ordered_parseNested (depth : Nat) (text : String) (value : Json)
    (h : parseNested depth text = .ok value) : value.Ordered := by
  unfold parseNested at h
  cases hr : run depth text.toList .start { stack := [], mode := .value false } with
  | error e =>
    rw [hr] at h
    cases h
  | ok last =>
    obtain ⟨reader, place⟩ := last
    have hstart : Reader.Ordered { stack := [], mode := .value false } :=
      ⟨fun _ h => (nomatch h), trivial⟩
    have ho := ordered_run depth text.toList .start place _ reader hstart hr
    rw [hr] at h
    cases hf : finish reader with
    | error cause =>
      simp only [bind, Except.bind, hf] at h
      cases h
    | ok found =>
      simp only [bind, Except.bind, hf] at h
      cases h
      exact ordered_finish reader value ho hf

theorem ordered_parse (text : String) (value : Json) (h : parse text = .ok value) :
    value.Ordered :=
  ordered_parseNested maxDepth text value h

/-- In an object that is read, no key comes twice. -/
theorem nodup_parse (text : String) (members : List (String × Json))
    (h : parse text = .ok (.object members)) : (members.map Prod.fst).Nodup := by
  cases ordered_parse text _ h with
  | object _ sorted _ => exact nodup_of_sorted members sorted

end QueryBlocks.Json
