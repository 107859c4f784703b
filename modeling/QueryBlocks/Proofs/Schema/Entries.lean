import QueryBlocks.Proofs.Json.Places
import QueryBlocks.Proofs.Schema.Answers
import QueryBlocks.Proofs.Schema.References

/-!
# The entries of a schema

What a schema has of the types that an answer lists: one entry for each, in their order, under the
name of the type, with the fields and arguments that are listed where the kind has fields. A listing
that can be read gives no schema only if it brings a name twice.
-/

set_option autoImplicit false

namespace QueryBlocks

open Json

namespace Json

theorem require_eq_ok {α : Type} (name : String) (found : Option α) (value : α) :
    require name found = .ok value ↔ found = some value := by
  cases found <;> simp [require]

end Json

namespace Introspection

inductive ListsAll {α : Type} (lists : Json → α → Prop) : Option Json → List α → Prop where
  | absent : ListsAll lists none []
  | null : ListsAll lists (some .null) []
  | items (items : List Json) (entries : List α) (h : List.Forall₂ lists items entries) :
      ListsAll lists (some (.array items)) entries

def argNames : List String := ["name", "type"]

def fieldNames : List String := ["name", "description", "args", "type"]

def typeNames : List String := ["kind", "name", "description", "fields"]

structure ListsArg (value : Json) (arg : ArgDef) : Prop where
  name : place? argNames "name" value = some (.string arg.name)
  type : ∃ ref, place? argNames "type" value = some ref ∧ TypeRef.Told ref arg.type

structure ListsField (value : Json) (field : FieldDef) : Prop where
  name : place? fieldNames "name" value = some (.string field.name)
  description : MayTell (place? fieldNames "description" value) field.description
  args : ListsAll ListsArg (place? fieldNames "args" value) field.args
  type : ∃ ref, place? fieldNames "type" value = some ref ∧ TypeRef.Told ref field.type

/-- A type has the fields that are listed for it only if it is an object or an interface. -/
structure ListsType (value : Json) (type : TypeDef) : Prop where
  name : place? typeNames "name" value = some (.string type.name)
  kind : ∃ tag, place? typeNames "kind" value = some tag ∧ TypeKind.Told tag type.kind
  description : MayTell (place? typeNames "description" value) type.description
  fields : type.kind = .object ∨ type.kind = .interface →
    ListsAll ListsField (place? typeNames "fields" value) type.fields
  bare : type.kind ≠ .object → type.kind ≠ .interface → type.fields = []

def ListsTypes (body : Json) (items : List Json) : Prop :=
  ∃ data schema, place? ["data", "errors"] "data" body = some data ∧
    place? ["__schema"] "__schema" data = some schema ∧
    place? ["queryType", "mutationType", "types"] "types" schema = some (.array items)

section

variable {α β : Type} (read : Read β)

theorem listsAll_of_leaves (lists : Json → β → Prop)
    (hread : ∀ value entry, read value = .ok entry → lists value entry) (found : Option Json)
    (entries : List β) (h : Leaves (readList read) found [] entries) :
    ListsAll lists found entries := by
  cases found with
  | none =>
    cases h
    exact .absent
  | some value =>
    obtain ⟨items, rfl, hf⟩ := readList_forall₂ read value entries h
    exact .items items entries (hf.imp hread)

theorem listsAll_of_optional (lists : Json → β → Prop)
    (hread : ∀ value entry, read value = .ok entry → lists value entry) (found : Option Json)
    (entries : Option (List β)) (h : Leaves (readOptional (readList read)) found none entries) :
    ListsAll lists found (entries.getD []) := by
  match found, entries with
  | none, entries =>
    cases h
    exact .absent
  | some value, none =>
    rw [(readOptional_eq_none _ value).mp h]
    exact .null
  | some value, some entries =>
    have hl := ((readOptional_eq_some (readList read) value entries).mp h).2
    exact listsAll_of_leaves read lists hread (some value) entries hl

end

theorem told_of_leaves (found : Option Json) (ref : TypeRef)
    (h : Leaves (fun v => (TypeRef.read v).map some) found none (some ref)) :
    ∃ value, found = some value ∧ TypeRef.Told value ref := by
  obtain ⟨value, hf, hr⟩ := leaves_required TypeRef.read found ref h
  exact ⟨value, hf, TypeRef.told_of_read value ref hr⟩

def argMembers : List (Member ArgParts) :=
  [settingMember "name" readString (fun p name => { p with name := some name }) false,
   settingMember "type" TypeRef.read (fun p type => { p with type := some type }) false]

theorem readArg_lists (value : Json) (arg : ArgDef) (h : readArg value = .ok arg) :
    ListsArg value arg := by
  obtain ⟨⟨name, type⟩, hp, hl⟩ :=
    exists_readRecord "RawArg" argMembers _ _ (by decide) value arg h
  have hname := hl ArgParts.name "name" _
    (sets_among [] [_] _ some _ _ _ _ (fun _ _ => rfl) (by simp [spares_settingMember]))
  have htype := hl ArgParts.type "type" _
    (sets_among [_] [] _ some _ _ _ _ (fun _ _ => rfl) (by simp [spares_settingMember]))
  match name, type with
  | some name, some type =>
    cases hp
    obtain ⟨text, hf, ht⟩ := leaves_required readString _ name hname
    rw [readString_eq_ok] at ht
    exact { name := ht ▸ hf, type := told_of_leaves _ type htype }
  | none, _ => cases hp
  | some _, none => cases hp

def fieldMembers : List (Member FieldParts) :=
  [settingMember "name" readString (fun p name => { p with name := some name }) false,
   settingMember "description" (readOptional readString)
     (fun p description => { p with description }) true,
   settingMember "args" (readList readArg) (fun p args => { p with args }) true,
   settingMember "type" TypeRef.read (fun p type => { p with type := some type }) false]

theorem readField_lists (value : Json) (field : FieldDef) (h : readField value = .ok field) :
    ListsField value field := by
  obtain ⟨⟨name, description, args, type⟩, hp, hl⟩ :=
    exists_readRecord "RawField" fieldMembers _ _ (by decide) value field h
  have hname := hl FieldParts.name "name" _
    (sets_among [] [_, _, _] _ some _ _ _ _ (fun _ _ => rfl) (by simp [spares_settingMember]))
  have hdescription := hl FieldParts.description "description" _
    (sets_whole [_] [_, _] _ _ _ _ _ (fun _ _ => rfl) (by simp [spares_settingMember]))
  have hargs := hl FieldParts.args "args" _
    (sets_whole [_, _] [_] _ _ _ _ _ (fun _ _ => rfl) (by simp [spares_settingMember]))
  have htype := hl FieldParts.type "type" _
    (sets_among [_, _, _] [] _ some _ _ _ _ (fun _ _ => rfl) (by simp [spares_settingMember]))
  match name, type with
  | some name, some type =>
    cases hp
    obtain ⟨text, hf, ht⟩ := leaves_required readString _ name hname
    rw [readString_eq_ok] at ht
    exact
      { name := ht ▸ hf
        description := mayTell_of_leaves _ description hdescription
        args := listsAll_of_leaves readArg ListsArg readArg_lists _ args hargs
        type := told_of_leaves _ type htype }
  | none, _ => cases hp
  | some _, none => cases hp

def typeMembers : List (Member TypeParts) :=
  [settingMember "kind" TypeKind.read (fun p kind => { p with kind := some kind }) false,
   settingMember "name" readString (fun p name => { p with name := some name }) false,
   settingMember "description" (readOptional readString)
     (fun p description => { p with description }) true,
   settingMember "fields" (readOptional (readList readField))
     (fun p fields => { p with fields }) true]

theorem hasFields_iff (kind : TypeKind) :
    kind.hasFields = true ↔ kind = .object ∨ kind = .interface := by
  cases kind <;> simp [TypeKind.hasFields]

theorem readType_lists (value : Json) (listed : ListedType) (h : readType value = .ok listed) :
    ListsType value listed.toTypeDef := by
  obtain ⟨⟨kind, name, description, fields⟩, hp, hl⟩ :=
    exists_readRecord "RawType" typeMembers _ _ (by decide) value listed h
  have hkind := hl TypeParts.kind "kind" _
    (sets_among [] [_, _, _] _ some _ _ _ _ (fun _ _ => rfl) (by simp [spares_settingMember]))
  have hname := hl TypeParts.name "name" _
    (sets_among [_] [_, _] _ some _ _ _ _ (fun _ _ => rfl) (by simp [spares_settingMember]))
  have hdescription := hl TypeParts.description "description" _
    (sets_whole [_, _] [_] _ _ _ _ _ (fun _ _ => rfl) (by simp [spares_settingMember]))
  have hfields := hl TypeParts.fields "fields" _
    (sets_whole [_, _, _] [] _ _ _ _ _ (fun _ _ => rfl) (by simp [spares_settingMember]))
  match kind, name with
  | some kind, some name =>
    cases hp
    obtain ⟨text, hf, ht⟩ := leaves_required readString _ name hname
    rw [readString_eq_ok] at ht
    have hlisted : ListsAll ListsField (place? typeNames "fields" value) (fields.getD []) :=
      listsAll_of_optional readField ListsField readField_lists _ fields hfields
    obtain ⟨tag, hplace, htag⟩ := leaves_required TypeKind.read _ kind hkind
    refine
      { name := ht ▸ hf
        kind := ⟨tag, hplace, TypeKind.told_of_read tag kind htag⟩
        description := mayTell_of_leaves _ description hdescription
        fields := fun hk => ?_
        bare := fun ho hi => ?_ }
    · have hk : kind.hasFields = true := (hasFields_iff kind).mpr hk
      simpa [ListedType.toTypeDef, hk] using hlisted
    · have hk : ¬kind.hasFields = true := fun h => ((hasFields_iff kind).mp h).elim ho hi
      simp [ListedType.toTypeDef, hk]
  | none, _ => cases hp
  | some _, none => cases hp

def listingMembers : List (Member ListingParts) :=
  [settingMember "queryType" readRoot (fun p name => { p with queryType := some name }) false,
   settingMember "mutationType" (readOptional readRoot)
     (fun p mutationType => { p with mutationType }) true,
   settingMember "types" (readList readType) (fun p types => { p with types := some types }) false]

theorem readListing_types (value : Json) (listing : Listing)
    (h : readListing value = .ok listing) :
    ∃ items, place? ["queryType", "mutationType", "types"] "types" value = some (.array items) ∧
      List.Forall₂ (fun item listed => readType item = .ok listed) items listing.types := by
  obtain ⟨⟨queryType, mutationType, types⟩, hp, hl⟩ :=
    exists_readRecord "RawSchema" listingMembers _ _ (by decide) value listing h
  have htypes := hl ListingParts.types "types" _
    (sets_among [_, _] [] _ some _ _ _ _ (fun _ _ => rfl) (by simp [spares_settingMember]))
  match queryType, types with
  | some queryType, some types =>
    cases hp
    obtain ⟨list, hf, ht⟩ := leaves_required (readList readType) _ types htypes
    obtain ⟨items, rfl, hitems⟩ := readList_forall₂ readType list types ht
    exact ⟨items, hf, hitems⟩
  | none, _ => cases hp
  | some _, none => cases hp

theorem readData_schema (data : Json) (listing : Listing) (h : readData data = .ok listing) :
    ∃ schema, place? ["__schema"] "__schema" data = some schema ∧
      readListing schema = .ok listing := by
  obtain ⟨found, hp, hl⟩ := exists_readRecord "IntrospectionData"
    [wholeMember "__schema" (fun v => (readListing v).map some) false] _ _ (by decide) data listing h
  have hs := hl id "__schema" _ (sets_single _ _ _)
  rw [(require_eq_ok _ _ _).mp hp] at hs
  exact leaves_required readListing _ listing hs

theorem readEnvelope_data (body data : Json) (e : Envelope) (h : readEnvelope body = .ok e)
    (hd : e.data = some data) : place? ["data", "errors"] "data" body = some data := by
  obtain ⟨record, hp, hl⟩ :=
    exists_readRecord "Envelope" [dataMember, errorsMember] _ _ (by decide) body e h
  cases hp
  exact ((leaves_data _ _ data (hl Envelope.data "data" readPresent sets_data)).mp hd).1

/-- What is read as the listing of a body are the types that it lists. -/
theorem exists_listsTypes (body data : Json) (e : Envelope) (listing : Listing)
    (he : readEnvelope body = .ok e) (hd : e.data = some data) (hl : readData data = .ok listing) :
    ∃ items, ListsTypes body items ∧
      List.Forall₂ (fun item listed => readType item = .ok listed) items listing.types := by
  obtain ⟨schema, hs, hl⟩ := readData_schema data listing hl
  obtain ⟨items, hi, hf⟩ := readListing_types schema listing hl
  exact ⟨items, ⟨data, schema, readEnvelope_data body data e he hd, hs, hi⟩, hf⟩

theorem entries_toSchema (listing : Listing) (schema : Schema)
    (h : listing.toSchema = .ok schema) :
    schema.types.entries = listing.types.map ListedType.entry := by
  rcases distinct_or_repeated listing.types with hn | ⟨before, again, after, ht, hn, ha⟩
  · have hs := toSchema_eq_ok listing
      { queryType := listing.queryType, mutationType := listing.mutationType
        types := catalogOf listing.types hn } rfl rfl rfl
    rw [h, Except.ok.injEq] at hs
    rw [hs]
    rfl
  · rw [toSchema_repeated listing before after again ht hn ha] at h
    cases h

/-- A schema has an entry for every type that the body of its answer lists, in order and each under
its own name, with what is listed of the type. A body without errors whose data can be read gives
one, except if two of the types have the same name; then the first that repeats a name is
reported. -/
theorem parse_entries (body : Json) :
    (∀ schema, parse body = .ok schema →
      schema.types.names.Nodup ∧ ∃ items, ListsTypes body items ∧
        List.Forall₂ (fun item entry => entry.1 = entry.2.name ∧ ListsType item entry.2) items
          schema.types.entries) ∧
    ∀ e data listing, readEnvelope body = .ok e → e.Quiet → e.data = some data →
      readData data = .ok listing →
        ∃ items names, ListsTypes body items ∧
          List.Forall₂ (fun item name => place? typeNames "name" item = some (.string name)) items
            names ∧
          ((names.Nodup ∧ ∃ schema, parse body = .ok schema) ∨
            ∃ before again after cause, names = before ++ again :: after ∧ before.Nodup ∧
              again ∈ before ∧ parse body = .error (.malformed cause) ∧
              cause.message = "duplicate type `" ++ again ++ "`") := by
  constructor
  · intro schema h
    obtain ⟨e, he, hq, data, listing, hd, hl, hs⟩ := (parse_eq_ok body schema).mp h
    obtain ⟨items, hi, hf⟩ := exists_listsTypes body data e listing he hd hl
    refine ⟨schema.types.distinct, items, hi, ?_⟩
    rw [entries_toSchema listing schema hs, List.forall₂_map_right_iff]
    exact hf.imp fun item listed hr => ⟨rfl, readType_lists item listed hr⟩
  · intro e data listing he hq hd hl
    obtain ⟨items, hi, hf⟩ := exists_listsTypes body data e listing he hd hl
    have hp : parse body = listing.toSchema.mapError .malformed := by
      rw [parse_of_data body data e he hq hd, schemaIn, hl]
    refine ⟨items, listing.types.map ListedType.name, hi, ?_, ?_⟩
    · rw [List.forall₂_map_right_iff]
      exact hf.imp fun item listed hr => (readType_lists item listed hr).name
    · rcases distinct_or_repeated listing.types with hn | ⟨before, again, after, ht, hn, ha⟩
      · left
        have hs := toSchema_eq_ok listing
          { queryType := listing.queryType, mutationType := listing.mutationType
            types := catalogOf listing.types hn } rfl rfl rfl
        exact ⟨hn, _, by rw [hp, hs]; rfl⟩
      · right
        refine ⟨before.map ListedType.name, again.name, after.map ListedType.name,
          .duplicateType again.name, by simp [ht], hn, ha, ?_, rfl⟩
        rw [hp, toSchema_repeated listing before after again ht hn ha]
        rfl

def bodyWith (types : List Json) : Json :=
  .object [("data", .object [("__schema", .object
    [("queryType", .object [("name", .string "Query")]), ("types", .array types)])])]

def sizeField : Json :=
  .object
    [("name", .string "size"),
     ("args", .array [.object [("name", .string "unit"), ("type", .object
       [("kind", .object [("ENUM", .null)]), ("name", .string "Unit")])]]),
     ("type", .object [("kind", .string "NON_NULL"), ("ofType", .object
       [("kind", .string "SCALAR"), ("name", .string "Int")])])]

def listedType (kind name : String) : Json :=
  .object [("kind", .string kind), ("name", .string name), ("fields", .array [sizeField])]

def crewBody : Json := bodyWith [listedType "OBJECT" "Crew", listedType "SCALAR" "Int"]

def twiceBody : Json :=
  bodyWith [listedType "SCALAR" "Int", listedType "OBJECT" "Crew", listedType "SCALAR" "Int"]

theorem parse_entries_crew :
    (∃ schema, parse crewBody = .ok schema ∧
      schema.types.names.Nodup ∧ ∃ items, ListsTypes crewBody items ∧
        List.Forall₂ (fun item entry => entry.1 = entry.2.name ∧ ListsType item entry.2) items
          schema.types.entries) ∧
    ∃ items names before again after cause, ListsTypes twiceBody items ∧
      List.Forall₂ (fun item name => place? typeNames "name" item = some (.string name)) items
        names ∧
      names = before ++ again :: after ∧ before.Nodup ∧ again ∈ before ∧
      parse twiceBody = .error (.malformed cause) ∧
      cause.message = "duplicate type `" ++ again ++ "`" := by
  constructor
  · exact ⟨_, rfl, (parse_entries crewBody).1 _ rfl⟩
  · obtain ⟨items, names, hi, hn, hd⟩ :=
      (parse_entries twiceBody).2 _ _ _ rfl (.inl rfl) rfl rfl
    rcases hd with ⟨-, schema, hs⟩ | ⟨before, again, after, cause, h⟩
    · have hp : parse twiceBody = .error (.malformed (.duplicateType "Int")) := rfl
      rw [hp] at hs
      cases hs
    · exact ⟨items, names, before, again, after, cause, hi, hn, h⟩

end Introspection

end QueryBlocks
