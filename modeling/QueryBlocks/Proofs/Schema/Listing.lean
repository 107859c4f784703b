import Mathlib.Data.List.Induction
import QueryBlocks.Proofs.Schema.Envelope

/-!
# Schemas as endpoints list them

The answer to the introspection document that lists a schema, and what is read of it: the same
schema, with its types, fields and arguments in the order in which they are listed.
-/

set_option autoImplicit false

namespace QueryBlocks

open Json (Mismatch Read readItems readList readOptional readString)

namespace Json

section

variable {α β : Type} (read : Read β) (encode : α → Json) (f : α → β)

/-- Items are read one by one, in order. -/
theorem readItems_map (items : List α) (h : ∀ x ∈ items, read (encode x) = .ok (f x))
    (index : Nat) : readItems read index (items.map encode) = .ok (items.map f) := by
  induction items generalizing index with
  | nil => rfl
  | cons x items ih =>
    have hx : within (.item index) (read (encode x)) = .ok (f x) :=
      (within_eq_ok _ _ _).mpr (h x List.mem_cons_self)
    have hrest := ih (fun y hy => h y (List.mem_cons_of_mem x hy)) (index + 1)
    simp only [List.map_cons, readItems, hx, hrest, bind, Except.bind, pure, Except.pure]

theorem readList_map (items : List α) (h : ∀ x ∈ items, read (encode x) = .ok (f x)) :
    readList read (.array (items.map encode)) = .ok (items.map f) :=
  readItems_map read encode f items h 0

end

theorem readOptional_string (text : Option String) :
    readOptional readString (optional .string text) = .ok text := by
  cases text <;> rfl

end Json

theorem TypeKind.read_toJson (kind : TypeKind) : TypeKind.read kind.toJson = .ok kind := by
  cases kind <;> rfl

/-- A reference of any depth is read back from what is written of it. -/
theorem TypeRef.read_toJson (ref : TypeRef) : TypeRef.read ref.toJson = .ok ref := by
  induction ref with
  | plain kind name =>
    simp [toJson, read, readMembers, TypeKind.read_toJson, Json.readOptional_string, bind,
      Except.bind, Parts.finish]
  | around kind name inner ih =>
    -- with this in the context, simp takes the branch for a reference that is not null
    have hn : inner.toJson ≠ .null := by cases inner <;> exact Json.noConfusion
    simp [toJson, read, readMembers, TypeKind.read_toJson, Json.readOptional_string, bind,
      Except.bind, Parts.finish, ih]

def ArgDef.toJson (arg : ArgDef) : Json :=
  .object [("name", .string arg.name), ("type", arg.type.toJson)]

def FieldDef.toJson (field : FieldDef) : Json :=
  .object
    [("args", .array (field.args.map ArgDef.toJson)),
     ("description", Json.optional .string field.description),
     ("name", .string field.name),
     ("type", field.type.toJson)]

def TypeDef.fieldsJson (bare : Bool) (type : TypeDef) : Json :=
  if bare && !type.kind.hasFields then .null else .array (type.fields.map FieldDef.toJson)

def TypeDef.toJson (bare : Bool) (type : TypeDef) : Json :=
  .object
    [("description", Json.optional .string type.description),
     ("fields", type.fieldsJson bare),
     ("kind", type.kind.toJson),
     ("name", .string type.name)]

def Schema.rootJson (name : String) : Json := .object [("name", .string name)]

def Schema.toAnswer (bare : Bool) (schema : Schema) : Json :=
  .object [("data", .object [("__schema", .object
    [("mutationType", Json.optional Schema.rootJson schema.mutationType),
     ("queryType", Schema.rootJson schema.queryType),
     ("types", .array (schema.types.entries.map fun entry => entry.2.toJson bare))])])]

namespace Introspection

theorem readArg_toJson (arg : ArgDef) : readArg arg.toJson = .ok arg := by
  simp [readArg, ArgDef.toJson, Json.readRecord, Json.readMembers, Json.readString,
    TypeRef.read_toJson, Json.within, Json.require, bind, Except.bind, pure, Except.pure,
    Except.mapError]

theorem readField_toJson (field : FieldDef) : readField field.toJson = .ok field := by
  have hargs : readList readArg (.array (field.args.map ArgDef.toJson)) = .ok field.args := by
    simpa using
      Json.readList_map readArg ArgDef.toJson id field.args fun arg _ => readArg_toJson arg
  simp [readField, FieldDef.toJson, Json.readRecord, Json.readMembers, Json.readString,
    TypeRef.read_toJson, Json.readOptional_string, hargs, Json.within, Json.require, bind,
    Except.bind, pure, Except.pure, Except.mapError]

def listedOf (bare : Bool) (type : TypeDef) : ListedType :=
  { kind := type.kind, name := type.name, description := type.description
    fields := if bare && !type.kind.hasFields then none else some type.fields }

theorem readFields_fieldsJson (bare : Bool) (type : TypeDef) :
    readOptional (readList readField) (type.fieldsJson bare) = .ok (listedOf bare type).fields := by
  have hfields : readList readField (.array (type.fields.map FieldDef.toJson)) =
      .ok type.fields := by
    simpa using Json.readList_map readField FieldDef.toJson id type.fields
      fun field _ => readField_toJson field
  unfold TypeDef.fieldsJson listedOf
  split
  · rfl
  · rw [Json.readOptional_of_ne _ _ Json.noConfusion, hfields]
    rfl

theorem readType_toJson (bare : Bool) (type : TypeDef) :
    readType (type.toJson bare) = .ok (listedOf bare type) := by
  simp [readType, TypeDef.toJson, Json.readRecord, Json.readMembers, Json.readString,
    TypeKind.read_toJson, Json.readOptional_string, readFields_fieldsJson, Json.within,
    Json.require, bind, Except.bind, pure, Except.pure, Except.mapError, listedOf]

theorem readRoot_rootJson (name : String) : readRoot (Schema.rootJson name) = .ok name := by
  simp [readRoot, Schema.rootJson, Json.readRecord, Json.readMembers, Json.readString, Json.within,
    Json.require, bind, Except.bind, Except.map, Except.mapError]

def listingOf (bare : Bool) (schema : Schema) : Listing :=
  { queryType := schema.queryType, mutationType := schema.mutationType
    types := schema.types.entries.map fun entry => listedOf bare entry.2 }

theorem readListing_listing (bare : Bool) (schema : Schema) :
    readListing (.object
      [("mutationType", Json.optional Schema.rootJson schema.mutationType),
       ("queryType", Schema.rootJson schema.queryType),
       ("types", .array (schema.types.entries.map fun entry => entry.2.toJson bare))]) =
      .ok (listingOf bare schema) := by
  have hmutation : readOptional readRoot (Json.optional Schema.rootJson schema.mutationType) =
      .ok schema.mutationType := by
    cases schema.mutationType with
    | none => rfl
    | some name =>
      rw [Json.optional, Json.readOptional_of_ne _ _ Json.noConfusion, readRoot_rootJson]
      rfl
  have htypes := Json.readList_map readType (fun entry : String × TypeDef => entry.2.toJson bare)
    (fun entry => listedOf bare entry.2) schema.types.entries
    fun entry _ => readType_toJson bare entry.2
  simp [readListing, Json.readRecord, Json.readMembers, hmutation, readRoot_rootJson, htypes,
    Json.within, Json.require, bind, Except.bind, pure, Except.pure, Except.mapError, listingOf]

def ListedType.entry (listed : ListedType) : String × TypeDef := (listed.name, listed.toTypeDef)

theorem names_entries (listed : List ListedType) :
    (listed.map ListedType.entry).map Prod.fst = listed.map ListedType.name := by
  rw [List.map_map]
  rfl

/-- Types are added in the order in which they are listed, up to the first that brings a name for
the second time. -/
theorem addTypes_append (before after : List ListedType) (types : Catalog TypeDef)
    (h : (types.names ++ before.map ListedType.name).Nodup) :
    ∃ added, addTypes (before ++ after) types = addTypes after added ∧
      added.entries = types.entries ++ before.map ListedType.entry := by
  induction before generalizing types with
  | nil => exact ⟨types, rfl, by simp⟩
  | cons first before ih =>
    have hfresh : first.name ∉ types.names := by
      intro hm
      exact (List.nodup_append.mp h).2.2 _ hm _ List.mem_cons_self rfl
    simp only [List.cons_append, addTypes, Catalog.add?, dif_neg hfresh]
    obtain ⟨added, ha, he⟩ := ih
      { entries := types.entries ++ [(first.name, first.toTypeDef)], distinct := _ }
      (by simpa [Catalog.names] using h)
    exact ⟨added, ha, by simpa [ListedType.entry] using he⟩

theorem exists_added (before after : List ListedType) (h : (before.map ListedType.name).Nodup) :
    ∃ added, addTypes (before ++ after) .empty = addTypes after added ∧
      added.entries = before.map ListedType.entry := by
  obtain ⟨added, ha, he⟩ := addTypes_append before after .empty h
  exact ⟨added, ha, he⟩

/-- The schema that lists exactly the listed types is the one that is made. -/
theorem toSchema_eq_ok (listing : Listing) (schema : Schema)
    (hq : listing.queryType = schema.queryType) (hm : listing.mutationType = schema.mutationType)
    (ht : listing.types.map ListedType.entry = schema.types.entries) :
    listing.toSchema = .ok schema := by
  have hd : (listing.types.map ListedType.name).Nodup := by
    rw [← names_entries, ht]
    exact schema.types.distinct
  obtain ⟨added, ha, he⟩ := exists_added listing.types [] hd
  rw [List.append_nil] at ha
  have hadded : added = schema.types := by
    obtain ⟨entries, distinct⟩ := added
    have hentries : entries = schema.types.entries := he.trans ht
    subst hentries
    rfl
  rw [Listing.toSchema, ha, hadded, hq, hm]
  rfl

theorem toSchema_repeated (listing : Listing) (before after : List ListedType)
    (again : ListedType) (ht : listing.types = before ++ again :: after)
    (hd : (before.map ListedType.name).Nodup) (ha : again.name ∈ before.map ListedType.name) :
    listing.toSchema = .error (.duplicateType again.name) := by
  obtain ⟨added, hadded, he⟩ := exists_added before (again :: after) hd
  have hm : again.name ∈ added.names := by
    rw [Catalog.names, he, names_entries]
    exact ha
  rw [Listing.toSchema, ht, hadded, addTypes, Catalog.add?, dif_pos hm]
  rfl

/-- Listed types bring distinct names, or there is a first one that repeats a name. -/
theorem distinct_or_repeated (listed : List ListedType) :
    (listed.map ListedType.name).Nodup ∨
      ∃ before again after, listed = before ++ again :: after ∧
        (before.map ListedType.name).Nodup ∧ again.name ∈ before.map ListedType.name := by
  induction listed using List.reverseRecOn with
  | nil => exact .inl List.nodup_nil
  | append_singleton before last ih =>
    rcases ih with hd | ⟨first, again, after, rfl, hd, ha⟩
    · by_cases hm : last.name ∈ before.map ListedType.name
      · exact .inr ⟨before, last, [], rfl, hd, hm⟩
      · refine .inl ?_
        rw [List.map_append, List.nodup_append]
        refine ⟨hd, by simp, ?_⟩
        intro name hn other ho he
        rw [List.map_singleton, List.mem_singleton] at ho
        exact hm (ho ▸ he ▸ hn)
    · exact .inr ⟨first, again, after ++ [last], by simp, hd, ha⟩

def catalogOf (listed : List ListedType) (h : (listed.map ListedType.name).Nodup) :
    Catalog TypeDef :=
  { entries := listed.map ListedType.entry, distinct := by rw [names_entries]; exact h }

theorem toTypeDef_listedOf (bare : Bool) (type : TypeDef)
    (h : type.kind.hasFields = false → type.fields = []) :
    (listedOf bare type).toTypeDef = type := by
  obtain ⟨name, kind, fields, description⟩ := type
  cases hk : kind.hasFields with
  | true => simp [listedOf, ListedType.toTypeDef, hk]
  | false =>
    have hf : fields = [] := h hk
    simp [listedOf, ListedType.toTypeDef, hk, hf]

/-- The answer that lists a schema gives that schema, if its types stand under their own names
and those of other kinds than object and interface have no fields. -/
theorem parse_toAnswer (schema : Schema) (bare : Bool)
    (hn : ∀ entry ∈ schema.types.entries, entry.2.name = entry.1)
    (hf : ∀ entry ∈ schema.types.entries, entry.2.kind.hasFields = false → entry.2.fields = []) :
    parse (schema.toAnswer bare) = .ok schema := by
  refine (parse_object_eq_ok _ (by simp) schema).mpr ⟨.inl rfl, _, listingOf bare schema, rfl,
    Json.noConfusion, ?_, ?_⟩
  · simp [readData, Json.readRecord, Json.readMembers, readListing_listing, Json.within,
      Json.require, bind, Except.bind, Except.map, Except.mapError]
  · have hentries : ∀ entry ∈ schema.types.entries, (listedOf bare entry.2).entry = entry := by
      intro entry he
      exact Prod.ext (hn entry he) (toTypeDef_listedOf bare entry.2 (hf entry he))
    apply toSchema_eq_ok
    · rfl
    · rfl
    · rw [listingOf, List.map_map]
      exact (List.map_congr_left hentries).trans (List.map_id _)

def trainerSchema : Schema :=
  { queryType := "Query"
    mutationType := some "Training"
    types :=
      { entries :=
          [("Query", { name := "Query", kind := .object, description := some "The \"root\""
                       fields :=
              [{ name := "trainers", description := none
                 type := .nonNull (.list (.nonNull (.named .object "Trainer")))
                 args := [{ name := "level", type := .list (.named .inputObject "Levels") },
                   { name := "lost", type := .around .nonNull (some "") (.plain .list none) }] },
               { name := "lost", type := .plain .scalar none, args := []
                 description := some "" }] }),
           ("Trainer", { name := "Trainer", kind := .interface, description := none, fields :=
              [{ name := "rival", type := .named .interface "Trainer", args := []
                 description := none }] }),
           ("Levels", { name := "Levels", kind := .inputObject, description := none
                        fields := [] })]
        distinct := by decide } }

theorem parse_toAnswer_trainerSchema :
    (∀ entry ∈ trainerSchema.types.entries, entry.2.name = entry.1) ∧
      (∀ entry ∈ trainerSchema.types.entries,
        entry.2.kind.hasFields = false → entry.2.fields = []) ∧
      parse (trainerSchema.toAnswer true) = .ok trainerSchema := by
  have hn : ∀ entry ∈ trainerSchema.types.entries, entry.2.name = entry.1 := by decide
  have hf : ∀ entry ∈ trainerSchema.types.entries,
      entry.2.kind.hasFields = false → entry.2.fields = [] := by decide
  exact ⟨hn, hf, parse_toAnswer trainerSchema true hn hf⟩

end Introspection

end QueryBlocks
