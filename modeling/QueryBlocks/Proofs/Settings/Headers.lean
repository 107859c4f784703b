import Mathlib.Tactic.Common
import QueryBlocks.Proofs.Settings.Reading

/-!
# Header fields of endpoints

An endpoint is meant by its name, or as the default, but its header fields are looked for by its
URL. So what is sent to the endpoint are its own header fields and those of every other endpoint of
the same URL, in one order; they are its own alone exactly where the others of its URL have none.
-/

set_option autoImplicit false

namespace QueryBlocks

open scoped List

namespace Settings

theorem headerLe_iff (a b : String × String) :
    headerLe a b = true ↔
      Text.precedes a.1 b.1 = true ∨ (a.1 = b.1 ∧ Text.precedes b.2 a.2 = false) := by
  simp [headerLe]

theorem headerLe_total (a b : String × String) : (headerLe a b || headerLe b a) = true := by
  rw [Bool.or_eq_true, headerLe_iff, headerLe_iff]
  cases hab : Text.precedes a.1 b.1 with
  | true => exact .inl (.inl rfl)
  | false =>
    cases hba : Text.precedes b.1 a.1 with
    | true => exact .inr (.inl rfl)
    | false =>
      -- the names are the same, so the values decide
      have hname := Text.eq_of_not_precedes hab hba
      cases hv : Text.precedes b.2 a.2 with
      | false => exact .inl (.inr ⟨hname, rfl⟩)
      | true => exact .inr (.inr ⟨hname.symm, Text.precedes_asymm hv⟩)

theorem headerLe_trans (a b c : String × String) (hab : headerLe a b = true)
    (hbc : headerLe b c = true) : headerLe a c = true := by
  rw [headerLe_iff] at hab hbc ⊢
  rcases hab with hab | ⟨hab, hvab⟩ <;> rcases hbc with hbc | ⟨hbc, hvbc⟩
  · exact .inl (Text.precedes_trans hab hbc)
  · exact .inl (hbc ▸ hab)
  · exact .inl (hab ▸ hbc)
  · refine .inr ⟨hab.trans hbc, ?_⟩
    by_contra hca
    rw [Bool.not_eq_false] at hca
    cases hcb : Text.precedes b.2 c.2 with
    | true =>
      rw [Text.precedes_trans hcb hca] at hvab
      cases hvab
    | false =>
      rw [Text.eq_of_not_precedes hvbc hcb, hvab] at hca
      cases hca

theorem headerLe_antisymm (a b : String × String) (hab : headerLe a b = true)
    (hba : headerLe b a = true) : a = b := by
  rw [headerLe_iff] at hab hba
  rcases hab with hab | ⟨hname, hvab⟩
  · rcases hba with hba | ⟨hname, -⟩
    · rw [Text.precedes_asymm hab] at hba
      cases hba
    · exact absurd hname.symm (Text.ne_of_precedes hab)
  · rcases hba with hba | ⟨-, hvba⟩
    · exact absurd hname.symm (Text.ne_of_precedes hba)
    · exact Prod.ext hname (Text.eq_of_not_precedes hvba hvab)

def SortedHeaders (headers : Headers) : Prop := headers.Pairwise fun a b => headerLe a b = true

theorem sorted_of_ascending (headers : Headers) (h : Dictionary.Ascending headers) :
    SortedHeaders headers :=
  h.imp fun hab => (headerLe_iff _ _).mpr (.inl hab)

theorem sorted_headersFor (settings : Settings) (url : String) :
    SortedHeaders (settings.headersFor url) :=
  List.pairwise_mergeSort headerLe_trans headerLe_total _

theorem headersFor_perm (settings : Settings) (url : String) :
    settings.headersFor url ~
      (settings.endpoints.entries.filter fun entry => entry.2.url == url).flatMap
        fun entry => entry.2.headers.entries :=
  List.mergeSort_perm _ _

theorem headersFor_eq_nil_iff (settings : Settings) (url : String) :
    settings.headersFor url = [] ↔
      ∀ entry ∈ settings.endpoints.entries, entry.2.url = url → entry.2.headers.entries = [] := by
  rw [← List.perm_nil, (settings.headersFor_perm url).congr_left, List.perm_nil,
    List.flatMap_eq_nil_iff]
  simp [List.mem_filter]

def without (settings : Settings) (name : String) : Settings :=
  { settings with endpoints := settings.endpoints.erase name }

/-- What is sent to the URL of an endpoint, in the order of name and value: its own header fields,
none of which comes twice, and what would be sent there without it. -/
structure SentTo (settings : Settings) (name : String) (endpoint : Endpoint) : Prop where
  once : (endpoint.headers.entries.map Prod.fst).Nodup
  own_sorted : SortedHeaders endpoint.headers.entries
  sorted : SortedHeaders (settings.headersFor endpoint.url)
  all : settings.headersFor endpoint.url ~
    endpoint.headers.entries ++ (settings.without name).headersFor endpoint.url
  /-- The header fields sent are the endpoint's alone if and only if no other endpoint of its URL
  has any. -/
  own_iff : settings.headersFor endpoint.url = endpoint.headers.entries ↔
    ∀ other found, other ≠ name → settings.endpoints.find? other = some found →
      found.url = endpoint.url → found.headers.entries = []

section

variable (settings : Settings) (h : settings.Ordered) (name : String) (endpoint : Endpoint)

include h

theorem headersFor_without_eq_nil_iff (url : String) :
    (settings.without name).headersFor url = [] ↔
      ∀ other found, other ≠ name → settings.endpoints.find? other = some found →
        found.url = url → found.headers.entries = [] := by
  rw [headersFor_eq_nil_iff]
  constructor
  · intro hnone other found hne hf hu
    refine hnone (other, found) (List.mem_filter.mpr ⟨?_, by simpa using hne⟩) hu
    exact (h.ordered.find?_iff other found).mp hf
  · rintro hnone ⟨other, found⟩ he hu
    obtain ⟨hm, hne⟩ := List.mem_filter.mp he
    exact hnone other found (by simpa using hne) ((h.ordered.find?_iff other found).mpr hm) hu

variable (hf : settings.endpoints.find? name = some endpoint)

include hf

theorem headersFor_perm_append :
    settings.headersFor endpoint.url ~
      endpoint.headers.entries ++ (settings.without name).headersFor endpoint.url := by
  have hm := (h.ordered.find?_iff name endpoint).mp hf
  have hsplit := Dictionary.perm_cons_others _ h.ordered name endpoint hm
  calc settings.headersFor endpoint.url
    _ ~ (settings.endpoints.entries.filter fun entry => entry.2.url == endpoint.url).flatMap
          fun entry => entry.2.headers.entries := settings.headersFor_perm endpoint.url
    _ ~ _ := (hsplit.filter _).flatMap_right _
    _ = endpoint.headers.entries ++ ((settings.without name).endpoints.entries.filter fun entry =>
          entry.2.url == endpoint.url).flatMap fun entry => entry.2.headers.entries := by
      rw [List.filter_cons_of_pos (by simp), List.flatMap_cons]
      rfl
    _ ~ _ := (((settings.without name).headersFor_perm endpoint.url).append_left _).symm

theorem ascending_headers : Dictionary.Ascending endpoint.headers.entries :=
  h.values (name, endpoint) ((h.ordered.find?_iff name endpoint).mp hf)

theorem headersFor_eq_own_iff :
    settings.headersFor endpoint.url = endpoint.headers.entries ↔
      (settings.without name).headersFor endpoint.url = [] := by
  have hperm := headersFor_perm_append settings h name endpoint hf
  constructor
  · intro heq
    have hlength := hperm.length_eq
    rw [heq, List.length_append] at hlength
    exact List.length_eq_zero_iff.mp (by omega)
  · intro hnone
    rw [hnone, List.append_nil] at hperm
    have hown := sorted_of_ascending _ (ascending_headers settings h name endpoint hf)
    exact hperm.eq_of_pairwise (fun a b _ _ => headerLe_antisymm a b)
      (settings.sorted_headersFor endpoint.url) hown

theorem sentTo_of_ordered : settings.SentTo name endpoint where
  once := Dictionary.nodup_of_ascending _ (ascending_headers settings h name endpoint hf)
  own_sorted := sorted_of_ascending _ (ascending_headers settings h name endpoint hf)
  sorted := settings.sorted_headersFor endpoint.url
  all := headersFor_perm_append settings h name endpoint hf
  own_iff := (headersFor_eq_own_iff settings h name endpoint hf).trans
    (headersFor_without_eq_nil_iff settings h name endpoint.url)

end

theorem resolve_of_find? (settings : Settings) (choice : Option String) (name : String)
    (endpoint : Endpoint) (hc : choice.or settings.defaultEndpoint = some name)
    (hf : settings.endpoints.find? name = some endpoint) :
    settings.resolve choice = some endpoint.url := by
  cases choice with
  | some given =>
    cases hc
    simp [resolve, resolveName, hf]
  | none =>
    rw [Option.none_or] at hc
    simp [resolve, hc, hf]

/-- In settings that are accepted the default endpoint is one of theirs. An endpoint that is named,
or is the default where none is named, stands for its URL, and what is sent there are its own header
fields and those that the other endpoints of the same URL have. -/
theorem sentTo_configured (text : String) (settings : Settings) (h : ofToml text = .ok settings) :
    (∀ name, settings.defaultEndpoint = some name →
      ∃ endpoint, settings.endpoints.find? name = some endpoint) ∧
    ∀ choice name endpoint, choice.or settings.defaultEndpoint = some name →
      settings.endpoints.find? name = some endpoint →
        settings.resolve choice = some endpoint.url ∧ settings.SentTo name endpoint := by
  obtain ⟨document, -, hread, hfault⟩ := ofToml_eq_ok text settings h
  have hordered := ordered_read document.toJson settings hread
  refine ⟨settings.exists_default hfault, fun choice name endpoint hc hf => ⟨?_, ?_⟩⟩
  · exact settings.resolve_of_find? choice name endpoint hc hf
  · exact sentTo_of_ordered settings hordered name endpoint hf

deriving instance DecidableEq for Dictionary, Endpoint, TransportSettings, Settings

def sharedText : String :=
  "default_endpoint = \"far\"\n[endpoints]\n" ++
    "far.url = \"http://g/\"\nfar.headers.Key = \"3\"\n" ++
    "new.url = \"http://h/\"\nnew.headers.Key = \"1\"\n" ++
    "old.url = \"http://h/\"\nold.headers.Key = \"2\"\n"

def keyed (url key : String) : Endpoint := { url, headers := { entries := [("Key", key)] } }

def sharedSettings : Settings :=
  { standard with
    endpoints :=
      { entries := [("far", keyed "http://g/" "3"), ("new", keyed "http://h/" "1"),
          ("old", keyed "http://h/" "2")] }
    defaultEndpoint := some "far" }

theorem ofToml_sharedText : ofToml sharedText = .ok sharedSettings := by
  have hread : (ofToml sharedText).toOption = some sharedSettings := by decide +kernel
  cases h : ofToml sharedText with
  | error cause =>
    rw [h] at hread
    cases hread
  | ok settings =>
    rw [h] at hread
    rw [Option.some.inj hread]

/-- The key of one endpoint is sent to the other. -/
theorem key_of_other_endpoint_sent :
    ofToml sharedText = .ok sharedSettings ∧
      sharedSettings.endpoints.find? "new" = some (keyed "http://h/" "1") ∧
      sharedSettings.endpoints.find? "old" = some (keyed "http://h/" "2") ∧
      sharedSettings.resolve (some "new") = some "http://h/" ∧
      (keyed "http://h/" "1").headers.entries = [("Key", "1")] ∧
      sharedSettings.headersFor "http://h/" = [("Key", "1"), ("Key", "2")] := by
  refine ⟨ofToml_sharedText, rfl, rfl, rfl, rfl, ?_⟩
  exact List.mergeSort_of_pairwise (by decide)

theorem sentTo_configured_default :
    ofToml sharedText = .ok sharedSettings ∧
      none.or sharedSettings.defaultEndpoint = some "far" ∧
      sharedSettings.endpoints.find? "far" = some (keyed "http://g/" "3") ∧
      sharedSettings.resolve none = some "http://g/" ∧
      sharedSettings.SentTo "far" (keyed "http://g/" "3") ∧
      sharedSettings.headersFor "http://g/" = [("Key", "3")] := by
  obtain ⟨-, hsent⟩ := sentTo_configured sharedText sharedSettings ofToml_sharedText
  obtain ⟨hresolve, hfar⟩ := hsent none "far" (keyed "http://g/" "3") rfl rfl
  refine ⟨ofToml_sharedText, rfl, rfl, hresolve, hfar, hfar.own_iff.mpr ?_⟩
  intro other found hne hf hu
  have hordered := ordered_ofToml sharedText sharedSettings ofToml_sharedText
  have hm := (hordered.ordered.find?_iff other found).mp hf
  simp only [sharedSettings, List.mem_cons, Prod.mk.injEq, List.not_mem_nil, or_false] at hm
  rcases hm with ⟨rfl, -⟩ | ⟨-, rfl⟩ | ⟨-, rfl⟩
  · exact absurd rfl hne
  · exact absurd hu (by decide)
  · exact absurd hu (by decide)

end Settings

end QueryBlocks
