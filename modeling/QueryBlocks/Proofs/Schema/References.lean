import QueryBlocks.Proofs.Json.Places
import QueryBlocks.Schema.TypeRef

/-!
# Kinds and references in an answer

A kind is told by its name. A reference is a record of a kind, a name and what it stands around,
and says of each what the value has in its place.
-/

set_option autoImplicit false

namespace QueryBlocks

open Json

namespace Json

inductive MayTell : Option Json → Option String → Prop where
  | absent : MayTell none none
  | null : MayTell (some .null) none
  | told (text : String) : MayTell (some (.string text)) (some text)

theorem readString_eq_ok (value : Json) (text : String) :
    readString value = .ok text ↔ value = .string text := by
  cases value <;> simp [readString]

theorem leaves_required {β : Type} (read : Read β) (found : Option Json) (value : β)
    (h : Leaves (fun v => (read v).map some) found none (some value)) :
    ∃ v, found = some v ∧ read v = .ok value := by
  cases found with
  | none => cases h
  | some v =>
    refine ⟨v, rfl, ?_⟩
    simp only [Leaves] at h
    cases hr : read v <;> simp_all [Except.map]

theorem mayTell_of_leaves (found : Option Json) (text : Option String)
    (h : Leaves (readOptional readString) found none text) : MayTell found text := by
  match found, text with
  | none, text =>
    cases h
    exact .absent
  | some value, none =>
    rw [(readOptional_eq_none readString value).mp h]
    exact .null
  | some value, some text =>
    have hs := ((readOptional_eq_some readString value text).mp h).2
    rw [(readString_eq_ok value text).mp hs]
    exact .told text

end Json

namespace TypeKind

inductive Named : String → TypeKind → Prop where
  | scalar : Named "SCALAR" .scalar
  | object : Named "OBJECT" .object
  | interface : Named "INTERFACE" .interface
  | union : Named "UNION" .union
  | enum : Named "ENUM" .enum
  | inputObject : Named "INPUT_OBJECT" .inputObject
  | list : Named "LIST" .list
  | nonNull : Named "NON_NULL" .nonNull

/-- A kind may also be given as the only key of an object. -/
inductive Told : Json → TypeKind → Prop where
  | name (name : String) (kind : TypeKind) (h : Named name kind) : Told (.string name) kind
  | key (name : String) (kind : TypeKind) (h : Named name kind) :
      Told (.object [(name, .null)]) kind

theorem named_name (kind : TypeKind) : Named kind.name kind := by
  cases kind <;> constructor

theorem named_of_readName (name : String) (kind : TypeKind) (h : readName name = .ok kind) :
    Named name kind := by
  rw [readName] at h
  split at h
  · next found hf =>
    cases h
    have hname : kind.name = name := by simpa using List.find?_some hf
    exact hname ▸ named_name kind
  · cases h

theorem told_of_read (value : Json) (kind : TypeKind) (h : read value = .ok kind) :
    Told value kind := by
  match value with
  | .string name => exact .name name kind (named_of_readName name kind h)
  | .object [(name, inner)] =>
    obtain ⟨found, hf, h⟩ := (bind_eq_ok _ _ _).mp h
    cases inner with
    | null =>
      cases h
      exact .key name kind (named_of_readName name kind hf)
    | _ => cases h
  | .object [] => cases h
  | .object (_ :: _ :: _) => cases h
  | .null => cases h
  | .boolean _ => cases h
  | .integer _ => cases h
  | .float _ => cases h
  | .array _ => cases h

end TypeKind

namespace TypeRef

def memberNames : List String := ["kind", "name", "ofType"]

inductive Told : Json → TypeRef → Prop where
  | plain (value tag : Json) (kind : TypeKind) (name : Option String)
      (hkind : place? memberNames "kind" value = some tag) (htag : TypeKind.Told tag kind)
      (hname : MayTell (place? memberNames "name" value) name)
      (hinner : place? memberNames "ofType" value = none ∨
        place? memberNames "ofType" value = some .null) :
      Told value (.plain kind name)
  | around (value tag inner : Json) (kind : TypeKind) (name : Option String) (ref : TypeRef)
      (hkind : place? memberNames "kind" value = some tag) (htag : TypeKind.Told tag kind)
      (hname : MayTell (place? memberNames "name" value) name)
      (hinner : place? memberNames "ofType" value = some inner) (hne : inner ≠ .null)
      (h : Told inner ref) :
      Told value (.around kind name ref)

def members : List (Member Parts) :=
  [settingMember "kind" TypeKind.read (fun p kind => { p with kind := some kind }) false,
   settingMember "name" (readOptional readString) (fun p name => { p with name }) true,
   settingMember "ofType" (readOptional read) (fun p inner => { p with inner }) true]

theorem readMembers_cons (key : String) (value : Json) (rest : List (String × Json))
    (parts : Parts) :
    readMembers ((key, value) :: rest) parts =
      if key = "kind" then do
        readMembers rest { parts with kind := some (← TypeKind.read value) }
      else if key = "name" then do
        readMembers rest { parts with name := ← readOptional readString value }
      else if key = "ofType" then do
        readMembers rest { parts with inner := ← readOptional read value }
      else readMembers rest parts := by
  by_cases hv : value = .null
  · subst hv
    rfl
  · rw [readMembers, readOptional_of_ne read value hv]
    · cases read value <;> rfl
    · exact hv

theorem readMembers_found {σ : Type} (declared : List (Member σ)) (m : Member σ) (value : Json)
    (rest : List (String × Json)) (before mid : σ)
    (hf : declared.find? (fun other => other.name == m.name) = some m)
    (hm : m.read value before = .ok mid) :
    Json.readMembers declared ((m.name, value) :: rest) before =
      Json.readMembers declared rest mid := by
  simp only [Json.readMembers, hf, (within_eq_ok _ _ _).mpr hm, bind, Except.bind]

/-- The members of an object are read as those of a record. -/
theorem readMembers_record (list : List (String × Json)) (before after : Parts)
    (h : readMembers list before = .ok after) : Json.readMembers members list before = .ok after := by
  induction list generalizing before with
  | nil => exact h
  | cons m rest ih =>
    obtain ⟨key, value⟩ := m
    rw [readMembers_cons] at h
    by_cases hk : key = "kind"
    · rw [if_pos hk] at h
      obtain ⟨kind, hr, h⟩ := (bind_eq_ok _ _ _).mp h
      rw [hk]
      exact (readMembers_found members _ value rest before _ rfl
        ((read_settingMember "kind" _ _ _ _ _ _).mpr ⟨kind, hr, rfl⟩)).trans (ih _ h)
    rw [if_neg hk] at h
    by_cases hn : key = "name"
    · rw [if_pos hn] at h
      obtain ⟨name, hr, h⟩ := (bind_eq_ok _ _ _).mp h
      rw [hn]
      exact (readMembers_found members _ value rest before _ rfl
        ((read_settingMember "name" _ _ _ _ _ _).mpr ⟨name, hr, rfl⟩)).trans (ih _ h)
    rw [if_neg hn] at h
    by_cases hi : key = "ofType"
    · rw [if_pos hi] at h
      obtain ⟨inner, hr, h⟩ := (bind_eq_ok _ _ _).mp h
      rw [hi]
      exact (readMembers_found members _ value rest before _ rfl
        ((read_settingMember "ofType" _ _ _ _ _ _).mpr ⟨inner, hr, rfl⟩)).trans (ih _ h)
    rw [if_neg hi] at h
    simpa [Json.readMembers, members, Ne.symm hk, Ne.symm hn, Ne.symm hi] using ih _ h

theorem readItems_cons (kind name inner : Json) (rest : List Json) :
    readItems (kind :: name :: inner :: rest) = (do
      let kind ← TypeKind.read kind
      let name ← readOptional readString name
      let inner ← readOptional read inner
      if rest.isEmpty then return { kind := some kind, name, inner }
      else .error (.wrongLength (rest.length + 3) "fewer elements in array")) := by
  by_cases hv : inner = .null
  · subst hv
    rfl
  · rw [readItems, readOptional_of_ne read inner hv]
    generalize read inner = result
    cases inner with
    | null => exact absurd rfl hv
    | _ => cases result <;> rfl

theorem readElements_found {σ : Type} (label : String) (total : Nat)
    (declared rest : List (Member σ)) (m : Member σ) (value : Json) (values : List Json)
    (before mid : σ) (hm : m.read value before = .ok mid) :
    readElements label total declared (m :: rest) (value :: values) before =
      readElements label total declared rest values mid := by
  simp only [readElements, (within_eq_ok _ _ _).mpr hm, bind, Except.bind]

/-- And so are the items of an array. -/
theorem readItems_record (label : String) (items : List Json) (after : Parts)
    (h : readItems items = .ok after) :
    readElements label items.length members members items Parts.none = .ok after := by
  match items with
  | [] => cases h
  | [kind] =>
    obtain ⟨found, hk, h⟩ := (bind_eq_ok _ _ _).mp h
    cases h
    exact readElements_found label 1 members _ _ kind [] _ _
      ((read_settingMember "kind" _ _ _ _ _ _).mpr ⟨found, hk, rfl⟩)
  | [kind, name] =>
    obtain ⟨found, hk, h⟩ := (bind_eq_ok _ _ _).mp h
    obtain ⟨text, hn, h⟩ := (bind_eq_ok _ _ _).mp h
    cases h
    calc readElements label 2 members members [kind, name] Parts.none
        = _ := readElements_found label 2 members _ _ kind [name] _ _
          ((read_settingMember "kind" _ _ _ _ _ _).mpr ⟨found, hk, rfl⟩)
      _ = _ := readElements_found label 2 members _ _ name [] _ _
          ((read_settingMember "name" _ _ _ _ _ _).mpr ⟨text, hn, rfl⟩)
  | kind :: name :: inner :: rest =>
    rw [readItems_cons] at h
    obtain ⟨found, hk, h⟩ := (bind_eq_ok _ _ _).mp h
    obtain ⟨text, hn, h⟩ := (bind_eq_ok _ _ _).mp h
    obtain ⟨ref, hi, h⟩ := (bind_eq_ok _ _ _).mp h
    cases rest with
    | cons _ _ => cases h
    | nil =>
      cases h
      calc readElements label 3 members members [kind, name, inner] Parts.none
          = _ := readElements_found label 3 members _ _ kind [name, inner] _ _
            ((read_settingMember "kind" _ _ _ _ _ _).mpr ⟨found, hk, rfl⟩)
        _ = _ := readElements_found label 3 members _ _ name [inner] _ _
            ((read_settingMember "name" _ _ _ _ _ _).mpr ⟨text, hn, rfl⟩)
        _ = _ := readElements_found label 3 members _ _ inner [] _ _
            ((read_settingMember "ofType" _ _ _ _ _ _).mpr ⟨ref, hi, rfl⟩)

theorem read_record (value : Json) (ref : TypeRef) (h : read value = .ok ref) :
    readRecord "TypeRef" members Parts.none Parts.finish value = .ok ref := by
  match value with
  | .object list =>
    rw [read] at h
    obtain ⟨parts, hr, h⟩ := (bind_eq_ok _ _ _).mp h
    exact (bind_eq_ok _ _ _).mpr ⟨parts, readMembers_record list _ parts hr, h⟩
  | .array items =>
    rw [read] at h
    obtain ⟨parts, hr, h⟩ := (bind_eq_ok _ _ _).mp h
    exact (bind_eq_ok _ _ _).mpr ⟨parts, readItems_record "TypeRef" items parts hr, h⟩
  | .null => cases h
  | .boolean _ => cases h
  | .integer _ => cases h
  | .float _ => cases h
  | .string _ => cases h

theorem places_of_read (value : Json) (ref : TypeRef) (h : read value = .ok ref) :
    ∃ tag, place? memberNames "kind" value = some tag ∧ TypeKind.Told tag ref.kind ∧
      MayTell (place? memberNames "name" value) ref.name ∧
      Leaves (readOptional read) (place? memberNames "ofType" value) none ref.inner? := by
  obtain ⟨⟨kind, name, inner⟩, hp, hl⟩ :=
    exists_readRecord "TypeRef" members _ _ (by decide) value ref (read_record value ref h)
  have hkind := hl Parts.kind "kind" _
    (sets_among [] [_, _] _ some _ _ _ _ (fun _ _ => rfl) (by simp [spares_settingMember]))
  have hname := hl Parts.name "name" _
    (sets_whole [_] [_] _ _ _ _ _ (fun _ _ => rfl) (by simp [spares_settingMember]))
  have hinner := hl Parts.inner "ofType" _
    (sets_whole [_, _] [] _ _ _ _ _ (fun _ _ => rfl) (by simp [spares_settingMember]))
  match kind, inner with
  | none, _ => cases hp
  | some kind, none =>
    cases hp
    obtain ⟨tag, hf, ht⟩ := leaves_required TypeKind.read _ kind hkind
    exact ⟨tag, hf, TypeKind.told_of_read tag kind ht, mayTell_of_leaves _ name hname, hinner⟩
  | some kind, some inner =>
    cases hp
    obtain ⟨tag, hf, ht⟩ := leaves_required TypeKind.read _ kind hkind
    exact ⟨tag, hf, TypeKind.told_of_read tag kind ht, mayTell_of_leaves _ name hname, hinner⟩

/-- What is read as a reference is what the value tells of one. -/
theorem told_of_read (value : Json) (ref : TypeRef) (h : read value = .ok ref) :
    Told value ref := by
  induction ref generalizing value with
  | plain kind name =>
    obtain ⟨tag, hkind, htag, hname, hinner⟩ := places_of_read value _ h
    refine .plain value tag kind name hkind htag hname ?_
    cases hf : place? memberNames "ofType" value with
    | none => exact .inl rfl
    | some inner =>
      rw [hf] at hinner
      exact .inr (congrArg some ((readOptional_eq_none read inner).mp hinner))
  | around kind name ref ih =>
    obtain ⟨tag, hkind, htag, hname, hinner⟩ := places_of_read value _ h
    cases hf : place? memberNames "ofType" value with
    | none =>
      rw [hf] at hinner
      cases hinner
    | some inner =>
      rw [hf] at hinner
      obtain ⟨hne, hr⟩ := (readOptional_eq_some read inner ref).mp hinner
      exact .around value tag inner kind name ref hkind htag hname hf hne (ih inner hr)

end TypeRef

end QueryBlocks
