import Mathlib.Tactic.SplitIfs
import QueryBlocks.Proofs.Query.Token

/-!
# Names among the tokens

Whatever text is scanned, a name among its tokens is a name of the query language. Each step of
the scanner keeps what it has read of a name a name.
-/

set_option autoImplicit false

namespace QueryBlocks.Query

def Token.Named : Token → Prop
  | .name text => isName text = true
  | _ => True

def Place.Named : Place → Prop
  | .name text => isName (String.ofList text) = true
  | _ => True

def StepNamed (found : List Token × Place) : Prop :=
  (∀ token ∈ found.1, token.Named) ∧ found.2.Named

theorem stepNamed_within (place : Place) (h : place.Named) : StepNamed ([], place) :=
  ⟨fun _ hm => absurd hm List.not_mem_nil, h⟩

theorem stepNamed_token (token : Token) (place : Place) (ht : token.Named) (hp : place.Named) :
    StepNamed ([token], place) :=
  ⟨fun _ hm => List.mem_singleton.mp hm ▸ ht, hp⟩

theorem isName_first (c : Char) (h : isNameStart c = true) :
    isName (String.ofList [c]) = true := by
  simp [isName, h]

theorem isName_append (text : List Char) (c : Char) (h : isName (String.ofList text) = true)
    (hc : isNamePart c = true) : isName (String.ofList (text ++ [c])) = true := by
  cases text with
  | nil => simp [isName] at h
  | cons first more =>
    simp only [isName, String.toList_ofList, List.cons_append, Bool.and_eq_true,
      List.all_append] at h ⊢
    exact ⟨h.1, h.2, by simp [hc]⟩

theorem stepNamed_begin? (c : Char) : ∀ found ∈ begin? c, StepNamed found := by
  intro found h
  unfold begin? at h
  split_ifs at h with hi hm hs <;> cases h
  · exact stepNamed_within _ trivial
  · exact stepNamed_token _ _ trivial trivial
  · exact stepNamed_within _ (isName_first c hs)
  all_goals exact stepNamed_within _ trivial

theorem stepNamed_endWith (token : Token) (c : Char) (h : token.Named) :
    ∀ found ∈ endWith token c, StepNamed found := by
  intro found hf
  obtain ⟨other, ho, rfl⟩ := Option.map_eq_some_iff.mp hf
  obtain ⟨htokens, hplace⟩ := stepNamed_begin? c other ho
  exact ⟨List.forall_mem_cons.mpr ⟨h, htokens⟩, hplace⟩

theorem stepNamed_scanString (text : List Char) (c : Char) :
    ∀ found ∈ scanString text c, StepNamed found := by
  intro found h
  unfold scanString at h
  split_ifs at h <;> cases h
  · exact stepNamed_token _ _ trivial trivial
  · exact stepNamed_within _ trivial
  · exact stepNamed_within _ trivial

/-! Inside a string there is no name, whatever an escape stands for. -/

theorem addCode_named (text : List Char) (value : Nat) :
    ∀ place ∈ addCode text value, place.Named := by
  intro place h
  unfold addCode at h
  split_ifs at h
  · cases h
    trivial
  · cases h

theorem endCode_named (text : List Char) (leading : Option Nat) (value : Nat) :
    ∀ place ∈ endCode text leading value, place.Named := by
  intro place h
  cases leading with
  | none =>
    simp only [endCode] at h
    split_ifs at h
    · cases h
      trivial
    · exact addCode_named _ _ place h
  | some high =>
    simp only [endCode] at h
    split_ifs at h
    · exact addCode_named _ _ place h
    · cases h

theorem scanCode_named (text : List Char) (leading : Option Nat) (digits value : Nat) (c : Char) :
    ∀ place ∈ scanCode text leading digits value c, place.Named := by
  intro place h
  unfold scanCode at h
  split_ifs at h
  · cases h
    trivial
  · obtain ⟨digit, -, h⟩ := Option.bind_eq_some_iff.mp h
    exact endCode_named _ _ _ place h
  · obtain ⟨digit, -, h⟩ := Option.bind_eq_some_iff.mp h
    cases h
    trivial

theorem scanBraced_named (text : List Char) (value : Option Nat) (c : Char) :
    ∀ place ∈ scanBraced text value c, place.Named := by
  intro place h
  unfold scanBraced at h
  split_ifs at h
  · obtain ⟨code, -, h⟩ := Option.bind_eq_some_iff.mp h
    exact addCode_named _ _ place h
  · obtain ⟨digit, -, rfl⟩ := Option.map_eq_some_iff.mp h
    trivial

theorem scanBlock_named (raw : List Char) (c : Char) : (scanBlock raw c).Named := by
  unfold scanBlock
  split_ifs <;> trivial

theorem token?_named (stage : Stage) (text : List Char) :
    ∀ token ∈ stage.token? text, token.Named := by
  intro token h
  cases stage <;> cases h <;> trivial

/-- One character completes no other name than one that was begun as a name. -/
theorem scanChar_named (place : Place) (c : Char) (hp : place.Named) :
    ∀ found ∈ scanChar place c, StepNamed found := by
  intro found h
  cases place with
  | between => exact stepNamed_begin? c found h
  | comment =>
    cases h
    apply stepNamed_within
    split_ifs <;> trivial
  | dots seen =>
    simp only [scanChar] at h
    split_ifs at h <;> cases h
    · exact stepNamed_token _ _ trivial trivial
    · exact stepNamed_within _ trivial
  | name text =>
    simp only [scanChar] at h
    split_ifs at h with hc
    · cases h
      exact stepNamed_within _ (isName_append text c hp hc)
    · exact stepNamed_endWith (.name (String.ofList text)) c hp found h
  | number stage text =>
    simp only [scanChar] at h
    cases hn : stage.next c with
    | some next =>
      rw [hn] at h
      cases h
      exact stepNamed_within _ trivial
    | none =>
      rw [hn] at h
      simp only at h
      split_ifs at h
      · cases h
      · obtain ⟨token, ht, h⟩ := Option.bind_eq_some_iff.mp h
        exact stepNamed_endWith _ c (token?_named stage text token ht) found h
  | quote =>
    simp only [scanChar] at h
    split_ifs at h
    · cases h
      exact stepNamed_within _ trivial
    · exact stepNamed_scanString [] c found h
  | quotes =>
    simp only [scanChar] at h
    split_ifs at h
    · cases h
      exact stepNamed_within _ trivial
    · exact stepNamed_endWith (.string "") c trivial found h
  | string text => exact stepNamed_scanString text c found h
  | escape text =>
    simp only [scanChar] at h
    split_ifs at h
    · cases h
      exact stepNamed_within _ trivial
    · obtain ⟨d, -, rfl⟩ := Option.map_eq_some_iff.mp h
      exact stepNamed_within _ trivial
  | code text leading digits value =>
    obtain ⟨next, hn, rfl⟩ := Option.map_eq_some_iff.mp h
    exact stepNamed_within _ (scanCode_named _ _ _ _ c next hn)
  | braced text value =>
    obtain ⟨next, hn, rfl⟩ := Option.map_eq_some_iff.mp h
    exact stepNamed_within _ (scanBraced_named _ _ c next hn)
  | surrogate text leading =>
    simp only [scanChar] at h
    split_ifs at h <;> cases h
    exact stepNamed_within _ trivial
  | surrogateEscape text leading =>
    simp only [scanChar] at h
    split_ifs at h <;> cases h
    exact stepNamed_within _ trivial
  | block raw quotes =>
    simp only [scanChar] at h
    split_ifs at h <;> cases h
    · exact stepNamed_within _ (scanBlock_named _ c)
    · exact stepNamed_token _ _ trivial trivial
    · exact stepNamed_within _ trivial
  | blockEscape raw quotes =>
    simp only [scanChar] at h
    split_ifs at h <;> cases h
    · exact stepNamed_within _ (scanBlock_named _ c)
    · exact stepNamed_within _ trivial
    · exact stepNamed_within _ trivial

theorem scanEnd_named (place : Place) (hp : place.Named) :
    ∀ found ∈ scanEnd place, ∀ token ∈ found, token.Named := by
  intro found h token ht
  cases place with
  | name text =>
    cases h
    exact List.mem_singleton.mp ht ▸ hp
  | number stage text =>
    obtain ⟨number, hn, rfl⟩ := Option.map_eq_some_iff.mp h
    exact List.mem_singleton.mp ht ▸ token?_named stage text number hn
  | quotes =>
    cases h
    exact List.mem_singleton.mp ht ▸ trivial
  | _ =>
    cases h
    try cases ht

/-- Every name among the tokens of a text is a name of the query language. -/
theorem scan_named (place : Place) (text : List Char) (hp : place.Named) :
    ∀ found ∈ scanner.scan place text, ∀ token ∈ found, token.Named := by
  induction text generalizing place with
  | nil => exact scanEnd_named place hp
  | cons c rest ih =>
    intro found h token ht
    obtain ⟨step, hs, h⟩ := Option.bind_eq_some_iff.mp h
    obtain ⟨others, ho, rfl⟩ := Option.map_eq_some_iff.mp h
    obtain ⟨htokens, hnext⟩ := scanChar_named place c hp step hs
    rcases List.mem_append.mp ht with hm | hm
    · exact htokens token hm
    · exact ih step.2 hnext others ho token hm

end QueryBlocks.Query
