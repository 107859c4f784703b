import QueryBlocks.Block.Basic
import QueryBlocks.Proofs.Text.Percent

/-!
# Connection checks

Two blocks may be plugged together where their checks agree. A check is the code of an endpoint, a
space and a field name. No code has a space in it and every code reads back, so a check says which
endpoint and which field it was made of, whatever characters these have.
-/

set_option autoImplicit false

namespace QueryBlocks

def PlainInCheck (c : Char) : Prop :=
  c.isAlphanum = true ∨ c ∈ ";,/?:@&=+$-_.!~*'()#".toList

namespace Header

theorem plainInCheck_of_kept (c : Char) (h : keptInCheck c = true) : PlainInCheck c := by
  rw [keptInCheck, Bool.or_eq_true, List.contains_iff_mem] at h
  exact h

theorem coded_endpoint (header : Header) :
    Text.Coded PlainInCheck (Text.percentEncode keptInCheck header.endpoint).toList :=
  Text.coded_percentEncode keptInCheck PlainInCheck plainInCheck_of_kept header.endpoint

theorem space_notMem_of_coded (code : List Char) (h : Text.Coded PlainInCheck code) :
    ' ' ∉ code := by
  apply Text.not_mem_of_coded PlainInCheck ' ' code h
  · simp only [PlainInCheck]
    decide
  · decide
  · simp only [Text.IsUpperHex]
    decide

theorem decode_endpoint (header : Header) :
    Text.ofBytes? (Text.percentDecode (Text.percentEncode keptInCheck header.endpoint).toList) =
      some header.endpoint := by
  have h : keptInCheck '%' = false := by decide
  rw [Text.percentDecode_percentEncode keptInCheck h, Text.ofBytes?_bytes]

theorem outputCheck_toList (header : Header) :
    header.outputCheck.toList =
      (Text.percentEncode keptInCheck header.endpoint).toList ++ ' ' :: header.field.toList := by
  simp [outputCheck]

/-- A list is cut in one way only at its first mark. -/
theorem cut_unique {α : Type} (mark : α) (front other back rest : List α) (hf : mark ∉ front)
    (ho : mark ∉ other) (h : front ++ mark :: back = other ++ mark :: rest) :
    front = other ∧ back = rest := by
  induction front generalizing other with
  | nil =>
    cases other with
    | nil => simpa using h
    | cons c other =>
      have hc : mark = c := (List.cons.inj h).1
      simp [hc] at ho
  | cons c front ih =>
    cases other with
    | nil =>
      have hc : c = mark := (List.cons.inj h).1
      simp [hc] at hf
    | cons d other =>
      have hd : c = d := (List.cons.inj h).1
      have htail := ih other (fun hm => hf (by simp [hm])) (fun hm => ho (by simp [hm]))
        (List.cons.inj h).2
      simp [hd, htail]

theorem outputCheck_inj (header other : Header) (h : header.outputCheck = other.outputCheck) :
    header.endpoint = other.endpoint ∧ header.field = other.field := by
  have hlist : header.outputCheck.toList = other.outputCheck.toList := congrArg String.toList h
  rw [outputCheck_toList, outputCheck_toList] at hlist
  have hcut := cut_unique ' ' _ _ _ _ (space_notMem_of_coded _ header.coded_endpoint)
    (space_notMem_of_coded _ other.coded_endpoint) hlist
  constructor
  · have hread := header.decode_endpoint
    rw [hcut.1, other.decode_endpoint] at hread
    exact (Option.some.inj hread).symm
  · exact String.toList_inj.mp hcut.2

end Header

/-- Checks agree for blocks of the same endpoint and field only. Before its first space a check
has plain characters and escapes that read back as the endpoint, and behind it the field. -/
theorem Block.outputCheck_unambiguous :
    (∀ block other : Block, block.header.outputCheck = other.header.outputCheck ↔
      block.endpoint = other.endpoint ∧ block.header.field = other.header.field) ∧
    ∀ block : Block, ∃ code,
      block.header.outputCheck.toList = code ++ ' ' :: block.header.field.toList ∧
      ' ' ∉ code ∧ Text.Coded PlainInCheck code ∧
      Text.ofBytes? (Text.percentDecode code) = some block.endpoint := by
  constructor
  · intro block other
    constructor
    · intro h
      exact Header.outputCheck_inj block.header other.header h
    · rintro ⟨hendpoint, hfield⟩
      have hendpoint' : block.header.endpoint = other.header.endpoint := hendpoint
      simp only [Header.outputCheck, hendpoint', hfield]
  · intro block
    have hcode := block.header.coded_endpoint
    exact ⟨_, block.header.outputCheck_toList, Header.space_notMem_of_coded _ hcode, hcode,
      block.header.decode_endpoint⟩

example : (Header.fresh ⟨1⟩ "h/a b%20" "f g" "T").outputCheck = "h/a%20b%2520 f g" := by
  decide +kernel

end QueryBlocks
