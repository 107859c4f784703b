import QueryBlocks.Proofs.Data.Dictionary
import QueryBlocks.Proofs.Json.Places
import QueryBlocks.Settings.Load

/-!
# Settings that are read

Settings that are read of a document have their dictionaries in order: that of the endpoints, and
that of the header fields of each. Where nothing is wrong with them, their default endpoint is one
of theirs.
-/

set_option autoImplicit false

namespace QueryBlocks

namespace Settings

open Json (Read Member settingMember readString bind_eq_ok exists_readRecord holds_of_leaves
  sets_whole spares_settingMember require)

theorem mapM_read {α : Type} (read : Read α) (members : List (String × Json))
    (entries : List (String × α))
    (h : (members.mapM fun m => do
      return (m.1, ← Json.within (.member m.1) (read m.2))) = .ok entries)
    (entry : String × α) (he : entry ∈ entries) : ∃ value, read value = .ok entry.2 := by
  induction members generalizing entries with
  | nil =>
    cases h
    exact nomatch he
  | cons m members ih =>
    rw [List.mapM_cons, bind_eq_ok] at h
    obtain ⟨first, hf, h⟩ := h
    obtain ⟨value, hv, hf⟩ := (bind_eq_ok _ _ _).mp hf
    obtain ⟨rest, hr, h⟩ := (bind_eq_ok _ _ _).mp h
    cases hf
    cases h
    rcases List.mem_cons.mp he with rfl | he
    · exact ⟨m.2, (Json.within_eq_ok _ _ _).mp hv⟩
    · exact ih rest hr he

/-- A dictionary that is read is ordered, and holds what is read of its members. -/
theorem all_readDictionary {α : Type} (p : α → Prop) (read : Read α)
    (hp : ∀ value found, read value = .ok found → p found) (value : Json)
    (dictionary : Dictionary α) (h : readDictionary read value = .ok dictionary) :
    dictionary.All p := by
  cases value with
  | object members =>
    obtain ⟨entries, hr, h⟩ := (bind_eq_ok _ _ _).mp h
    cases h
    refine Dictionary.all_ofList p entries fun entry he => ?_
    obtain ⟨value, hv⟩ := mapM_read read members entries hr entry he
    exact hp value entry.2 hv
  | _ => cases h

def endpointMembers : List (Member EndpointParts) :=
  [settingMember "url" readString (fun p url => { p with url := some url }) false,
   settingMember "headers" (readDictionary readString) (fun p headers => { p with headers }) true]

theorem ordered_readEndpoint (value : Json) (endpoint : Endpoint)
    (h : readEndpoint value = .ok endpoint) : endpoint.headers.Ordered := by
  obtain ⟨⟨url, headers⟩, hp, hl⟩ :=
    exists_readRecord "EndpointConfig" endpointMembers _ _ (by decide) _ endpoint h
  have hheaders := hl EndpointParts.headers "headers" _
    (sets_whole [_] [] _ _ _ _ _ (fun _ _ => rfl) (by simp [spares_settingMember]))
  have hordered : headers.Ordered :=
    holds_of_leaves Dictionary.Ordered _ _ _ headers hheaders Dictionary.ordered_empty
      fun value found hf =>
        (all_readDictionary (fun _ => True) readString (fun _ _ _ => trivial) value found hf).ordered
  cases url with
  | none => cases hp
  | some url =>
    cases hp
    exact hordered

def Ordered (settings : Settings) : Prop :=
  settings.endpoints.All fun endpoint => endpoint.headers.Ordered

def settingsMembers : List (Member Settings) :=
  [settingMember "log_level" readString (fun p logLevel => { p with logLevel }) true,
   settingMember "transport" readTransport (fun p transport => { p with transport }) true,
   settingMember "endpoints" (readDictionary readEndpoint)
     (fun p endpoints => { p with endpoints }) true,
   settingMember "default_endpoint" readString
     (fun p name => { p with defaultEndpoint := some name }) true]

theorem ordered_read (value : Json) (settings : Settings) (h : read value = .ok settings) :
    settings.Ordered := by
  obtain ⟨found, hp, hl⟩ :=
    exists_readRecord "BlockGqlConfig" settingsMembers _ _ (by decide) value settings h
  cases hp
  have hendpoints := hl Settings.endpoints "endpoints" _
    (sets_whole [_, _] [_] _ _ _ _ _ (fun _ _ => rfl) (by simp [spares_settingMember]))
  exact holds_of_leaves (Dictionary.All fun endpoint => endpoint.headers.Ordered) _ _ _ _
    hendpoints (Dictionary.all_empty _) (all_readDictionary _ readEndpoint ordered_readEndpoint)

/-- The settings of a document are what is read of it, if nothing is wrong with them. -/
theorem ofToml_eq_ok (text : String) (settings : Settings) (h : ofToml text = .ok settings) :
    ∃ document, Toml.parse text = .ok document ∧ read document.toJson = .ok settings ∧
      settings.fault? = none := by
  rw [ofToml] at h
  cases hd : Toml.parse text with
  | error found => simp [hd] at h
  | ok document =>
    cases hr : read document.toJson with
    | error cause => simp [hd, hr] at h
    | ok found =>
      cases hf : found.fault? with
      | some cause => simp [hd, hr, hf] at h
      | none =>
        simp only [hd, hr, hf, Except.ok.injEq] at h
        subst h
        exact ⟨document, rfl, hr, hf⟩

theorem ordered_ofToml (text : String) (settings : Settings) (h : ofToml text = .ok settings) :
    settings.Ordered := by
  obtain ⟨document, -, hread, -⟩ := ofToml_eq_ok text settings h
  exact ordered_read document.toJson settings hread

theorem defaultFault?_of_fault? (settings : Settings) (h : settings.fault? = none) :
    settings.defaultFault? = none := by
  rw [fault?] at h
  split at h
  · cases h
  split at h
  · cases h
  cases hf : settings.endpoints.entries.findSome? endpointFault? with
  | some cause => simp [hf] at h
  | none => simpa [hf] using h

/-- The default endpoint of settings with nothing wrong is one of theirs. -/
theorem exists_default (settings : Settings) (h : settings.fault? = none) (name : String)
    (hname : settings.defaultEndpoint = some name) :
    ∃ endpoint, settings.endpoints.find? name = some endpoint := by
  have hd := defaultFault?_of_fault? settings h
  rw [defaultFault?, hname] at hd
  cases hf : settings.endpoints.find? name with
  | some endpoint => exact ⟨endpoint, rfl⟩
  | none => simp [Dictionary.contains, hf] at hd

end Settings

end QueryBlocks
