import Mathlib.Data.List.Forall2
import QueryBlocks.Proofs.Plan.Printing
import QueryBlocks.Proofs.Query.Literals
import QueryBlocks.Proofs.Query.Unambiguity

/-!
# The document of a compiled operation

The text of a compiled operation derives one document and no other: an operation whose
selections say field by field what the blocks say.
-/

set_option autoImplicit false

namespace QueryBlocks.Query

def Value.Denotes : Value → Option BoundValue → Prop
  | .null, none => True
  | .string text, some (.text s) => text = s
  | .int text, some (.number x) => Binary64.ofString? text = some x
  | .float text, some (.number x) => Binary64.ofString? text = some x
  | .boolean value, some (.boolean b) => value = b
  | .enum name, some (.enum n) => name = n
  | _, _ => False

def ArgumentDenotes (argument : String × Value) (p : Parameter) : Prop :=
  argument.1 = p.name ∧ argument.2.Denotes p.value

mutual

/-- A selection says what a block says: the bare field of a scalar block, the field of an
object block with its arguments and the selections of the blocks below it. -/
def Selection.Denotes : Selection → Block → Prop
  | selection, .scalar header => selection = .field none header.field [] [] []
  | .field none name arguments [] selections, .object header slots =>
    name = header.field ∧ List.Forall₂ ArgumentDenotes arguments header.parameters ∧
      Selection.AllDenote selections slots
  | _, .object _ _ => False

def Selection.AllDenote : List Selection → List (Option Block) → Prop
  | selections, [] => selections = []
  | selections, none :: rest => Selection.AllDenote selections rest
  | selection :: selections, some child :: rest =>
    selection.Denotes child ∧ Selection.AllDenote selections rest
  | [], some _ :: _ => False

end

def Presentable : BoundValue → Prop
  | .text _ => True
  | .boolean _ => True
  | .number x => ∃ negative units hr, x = .finite negative units hr
  | .enum name => isName name = true ∧ name ≠ "true" ∧ name ≠ "false" ∧ name ≠ "null"

def ParameterPresentable (p : Parameter) : Prop :=
  isName p.name = true ∧ ∀ value ∈ p.value, Presentable value

mutual

/-- A block with names for its field and parameters, presentable values and, if it is an
object, a block below it. -/
def BlockPresentable : Block → Prop
  | .scalar header => isName header.field = true
  | .object header slots =>
    isName header.field = true ∧ (∀ p ∈ header.parameters, ParameterPresentable p) ∧
      (∃ child, some child ∈ slots) ∧ SlotsPresentable slots

def SlotsPresentable : List (Option Block) → Prop
  | [] => True
  | none :: rest => SlotsPresentable rest
  | some child :: rest => BlockPresentable child ∧ SlotsPresentable rest

end

theorem scans_mark (c : Char) (text : List Char) (tokens : List Token) (hi : isIgnored c = false)
    (hm : isMark c = true) (h : scanner.Scans text tokens) :
    scanner.Scans (c :: text) (.mark c :: tokens) :=
  scanner.scans_cons c [.mark c] text tokens (by simp [scanner, scanChar, begin?, hi, hm]) h

theorem scans_ignored (c : Char) (text : List Char) (tokens : List Token)
    (hi : isIgnored c = true) (h : scanner.Scans text tokens) : scanner.Scans (c :: text) tokens :=
  scanner.scans_skip c text tokens (by simp [scanner, scanChar, begin?, hi]) h

/-- The literal of a finite number is one token. -/
theorem scans_number (x : Binary64) (h : Presentable (.number x)) :
    scanner.Scans x.toString.toList [.int x.toString] ∨
      scanner.Scans x.toString.toList [.float x.toString] := by
  obtain ⟨negative, units, hr, hx⟩ := h
  obtain ⟨magnitude, hl, ht⟩ := Binary64.text_finite negative units hr
  have htext : x.toString.toList = Binary64.signText negative ++ magnitude := by
    rw [Binary64.toString, String.toList_ofList, hx, ht]
  have hs := scans_finite negative magnitude hl
  rwa [← htext, String.ofList_toList] at hs

/-- A finite number gives a token that is read back as the number. -/
theorem number_derives (x : Binary64) (h : Presentable (.number x)) :
    ∃ value : Value, value.Denotes (some (.number x)) ∧ value.Formed false ∧
      scanner.Scans x.toString.toList value.tokens := by
  have hread := Binary64.ofString?_toString x
  rcases scans_number x h with hs | hs
  · exact ⟨.int x.toString, hread, trivial, hs⟩
  · exact ⟨.float x.toString, hread, trivial, hs⟩

/-- The literal of a parameter derives a value that says what is bound. -/
theorem literal_derives (p : Parameter) (h : ParameterPresentable p) :
    ∃ value : Value, value.Denotes p.value ∧ value.Formed false ∧
      scanner.Scans p.literal.toList value.tokens := by
  obtain ⟨name, typeName, bound⟩ := p
  cases bound with
  | none => exact ⟨.null, trivial, trivial, scans_name "null" (by decide)⟩
  | some bound =>
    have hb : Presentable bound := h.2 bound rfl
    cases bound with
    | text s => exact ⟨.string s, rfl, trivial, scans_quoteInQuery s⟩
    | number x => exact number_derives x hb
    | boolean b =>
      refine ⟨.boolean b, rfl, trivial, ?_⟩
      cases b with
      | true => exact scans_name "true" (by decide)
      | false => exact scans_name "false" (by decide)
    | enum name => exact ⟨.enum name, rfl, hb.2, scans_name name hb.1⟩

/-- A parameter derives an argument, whatever parts it from what follows. -/
theorem parameter_derives (p : Parameter) (h : ParameterPresentable p) :
    ∃ argument : String × Value, ArgumentDenotes argument p ∧ argument.2.Formed false ∧
      ∀ text tokens, scanner.Scans text tokens → scanner.Opens text →
        scanner.Scans (p.printed.toList ++ text)
          (.name argument.1 :: .mark ':' :: (argument.2.tokens ++ tokens)) := by
  obtain ⟨value, hd, hf, hv⟩ := literal_derives p h
  refine ⟨(p.name, value), ⟨rfl, hd⟩, hf, fun text tokens hs ho => ?_⟩
  have hvalue := scanner.scans_append _ text _ tokens hv hs ho
  have hcolon := scans_mark ':' _ _ rfl rfl (scans_ignored ' ' _ _ rfl hvalue)
  have hname := scanner.scans_append _ _ _ _ (scans_name p.name h.1) hcolon
    (scanner.opens_cons ':' _ rfl)
  rw [Parameter.printed, String.toList_append, String.toList_append, List.append_assoc,
    List.append_assoc]
  exact hname

theorem parameters_derive (parameters : List Parameter)
    (h : ∀ p ∈ parameters, ParameterPresentable p) :
    ∃ arguments, List.Forall₂ ArgumentDenotes arguments parameters ∧
      Value.FieldsFormed false arguments ∧
      ∀ text tokens, scanner.Scans text tokens → scanner.Opens text →
        scanner.Scans ((", ".intercalate (parameters.map Parameter.printed)).toList ++ text)
          (Value.fieldTokens arguments ++ tokens) := by
  induction parameters with
  | nil => exact ⟨[], .nil, trivial, fun text tokens hs _ => hs⟩
  | cons p rest ih =>
    obtain ⟨arguments, hd, hf, hs⟩ := ih (fun q hq => h q (by simp [hq]))
    obtain ⟨argument, hdp, hfp, hsp⟩ := parameter_derives p (h p (by simp))
    refine ⟨argument :: arguments, .cons hdp hd, ⟨hfp, hf⟩, fun text tokens ht ho => ?_⟩
    have htokens : Value.fieldTokens (argument :: arguments) ++ tokens =
        .name argument.1 :: .mark ':' ::
          (argument.2.tokens ++ (Value.fieldTokens arguments ++ tokens)) := by
      rw [Value.fieldTokens, List.cons_append, List.cons_append, List.append_assoc]
    rw [htokens]
    cases rest with
    | nil =>
      cases hd
      rw [List.map_singleton, String.intercalate_singleton]
      exact hsp text tokens ht ho
    | cons q others =>
      have hmore := scans_ignored ',' _ _ rfl (scans_ignored ' ' _ _ rfl (hs text tokens ht ho))
      have hall := hsp _ _ hmore (scanner.opens_cons ',' _ rfl)
      rw [List.map_cons, List.map_cons, String.intercalate_cons_cons, String.toList_append,
        String.toList_append, List.append_assoc, List.append_assoc]
      exact hall

/-- A parameter list derives the arguments, and none if it is empty. -/
theorem arguments_derive (parameters : List Parameter)
    (h : ∀ p ∈ parameters, ParameterPresentable p) :
    ∃ arguments, List.Forall₂ ArgumentDenotes arguments parameters ∧
      Value.FieldsFormed false arguments ∧
      ∀ text tokens, scanner.Scans text tokens → scanner.Opens text →
        scanner.Scans ((printedArguments parameters).toList ++ text)
            (argumentTokens arguments ++ tokens) ∧
          scanner.Opens ((printedArguments parameters).toList ++ text) := by
  obtain ⟨arguments, hd, hf, hs⟩ := parameters_derive parameters h
  refine ⟨arguments, hd, hf, fun text tokens ht ho => ?_⟩
  cases hd with
  | nil => exact ⟨ht, ho⟩
  | @cons argument p arguments rest hp hrest =>
    have hend := hs _ _ (scans_mark ')' _ _ rfl rfl ht) (scanner.opens_cons ')' _ rfl)
    have hall := scans_mark '(' _ _ rfl rfl hend
    have htokens : argumentTokens (argument :: arguments) ++ tokens = .mark '(' ::
        (Value.fieldTokens (argument :: arguments) ++ .mark ')' :: tokens) := by
      simp [argumentTokens, enclosed]
    rw [printedArguments, List.isEmpty_cons, if_neg Bool.false_ne_true, String.toList_append,
      String.toList_append, List.append_assoc, List.append_assoc, htokens]
    exact ⟨hall, scanner.opens_cons '(' _ rfl⟩

theorem printed_ne (block : Block) (h : BlockPresentable block) : block.printed ≠ "" := by
  cases block with
  | scalar header =>
    obtain ⟨first, rest, hn, -⟩ := isName_chars header.field h
    intro hp
    rw [show header.field = "" from hp] at hn
    cases hn
  | object header slots => exact Block.printed_object_ne header slots

theorem allDenote_ne_nil (slots : List (Option Block)) (selections : List Selection)
    (h : Selection.AllDenote selections slots) (hp : ∃ child, some child ∈ slots) :
    selections ≠ [] := by
  induction slots generalizing selections with
  | nil =>
    obtain ⟨child, hc⟩ := hp
    cases hc
  | cons slot rest ih =>
    cases slot with
    | none =>
      obtain ⟨child, hc⟩ := hp
      exact ih selections h ⟨child, by simpa using hc⟩
    | some child =>
      cases selections with
      | nil => exact h.elim
      | cons selection others => simp

theorem directivesFormed_nil : DirectivesFormed false [] := by
  intro directive h
  cases h

theorem objectField_tokens (name : String) (arguments : List (String × Value))
    (selections : List Selection) (hne : selections ≠ []) :
    (Selection.field none name arguments [] selections).tokens = .name name ::
      (argumentTokens arguments ++
        .mark '{' :: (Selection.allTokens selections ++ [.mark '}'])) := by
  cases selections with
  | nil => exact absurd rfl hne
  | cons selection others => simp [Selection.tokens, aliasTokens, directiveTokens]

mutual

/-- The text of a block derives a selection that says what the block says. -/
theorem block_derives (block : Block) (h : BlockPresentable block) :
    ∃ selection : Selection, selection.Denotes block ∧ selection.Formed ∧
      scanner.Scans block.printed.toList selection.tokens := by
  match block with
  | .scalar header =>
    exact ⟨.field none header.field [] [] [], rfl, ⟨trivial, directivesFormed_nil, trivial⟩,
      scans_name _ h⟩
  | .object header slots =>
    obtain ⟨hn, hp, hc, hs⟩ := h
    obtain ⟨selections, hd, hf, hlines⟩ := slots_derive slots hs
    obtain ⟨arguments, hda, hfa, harguments⟩ := arguments_derive header.parameters hp
    refine ⟨.field none header.field arguments [] selections, ⟨rfl, hda, hd⟩,
      ⟨hfa, directivesFormed_nil, hf⟩, ?_⟩
    have hend := scans_mark '}' _ _ rfl rfl (scans_ignored '\n' _ _ rfl scanner.scans_nil)
    have hbody := hlines _ _ hend (scanner.opens_cons '}' _ rfl)
    have hbraces := scans_ignored ' ' _ _ rfl
      (scans_mark '{' _ _ rfl rfl (scans_ignored '\n' _ _ rfl hbody))
    obtain ⟨hall, hopens⟩ := harguments _ _ hbraces (scanner.opens_cons ' ' _ rfl)
    have hfield := scanner.scans_append _ _ _ _ (scans_name header.field hn) hall hopens
    rw [objectField_tokens _ _ _ (allDenote_ne_nil slots selections hd hc), Block.printed,
      String.toList_append, String.toList_append, String.toList_append, String.toList_append,
      List.append_assoc, List.append_assoc, List.append_assoc]
    exact hfield

/-- The lines of the blocks in the slots derive their selections in order; empty slots have no
part in them. -/
theorem slots_derive (slots : List (Option Block)) (h : SlotsPresentable slots) :
    ∃ selections, Selection.AllDenote selections slots ∧ Selection.AllFormed selections ∧
      ∀ text tokens, scanner.Scans text tokens → scanner.Opens text →
        scanner.Scans ((Block.printedLines slots).toList ++ text)
          (Selection.allTokens selections ++ tokens) := by
  match slots with
  | [] => exact ⟨[], rfl, trivial, fun text tokens ht _ => ht⟩
  | none :: rest => exact slots_derive rest h
  | some child :: rest =>
    obtain ⟨selection, hd, hf, hs⟩ := block_derives child h.1
    obtain ⟨selections, hds, hfs, hlines⟩ := slots_derive rest h.2
    refine ⟨selection :: selections, ⟨hd, hds⟩, ⟨hf, hfs⟩, fun text tokens ht ho => ?_⟩
    have hmore := scans_ignored '\n' _ _ rfl (hlines text tokens ht ho)
    have hchild := scanner.scans_append _ _ _ _ hs hmore (scanner.opens_cons '\n' _ rfl)
    have hline := scans_ignored ' ' _ _ rfl (scans_ignored ' ' _ _ rfl hchild)
    rw [Block.printedLines, if_neg (printed_ne child h.1), Selection.allTokens,
      String.toList_append, String.toList_append, String.toList_append, List.append_assoc,
      List.append_assoc, List.append_assoc, List.append_assoc]
    exact hline

end

def Keyword.ofKind : OperationKind → Keyword
  | .query => .query
  | .mutation => .mutation

def operationName : Option String → Option String
  | none => none
  | some name => if name = "" then none else some name

theorem heading_derives (kind : OperationKind) (name : Option String)
    (hn : ∀ n ∈ name, n = "" ∨ isName n = true) (text : List Char) (tokens : List Token)
    (ht : scanner.Scans text tokens) (ho : scanner.Opens text) :
    scanner.Scans ((operationHeading kind name).toList ++ text)
      (.name (Keyword.ofKind kind).text :: (nameTokens (operationName name) ++ tokens)) := by
  have hkeyword : ∀ text tokens, scanner.Scans text tokens → scanner.Opens text →
      scanner.Scans (kind.keyword.toList ++ text)
        (.name (Keyword.ofKind kind).text :: tokens) := by
    intro text tokens hs ho
    cases kind with
    | query => exact scanner.scans_append _ _ _ _ (scans_name "query" (by decide)) hs ho
    | mutation => exact scanner.scans_append _ _ _ _ (scans_name "mutation" (by decide)) hs ho
  cases name with
  | none => exact hkeyword text tokens ht ho
  | some name =>
    by_cases he : name = ""
    · subst he
      exact hkeyword text tokens ht ho
    · have hname := scans_name name ((hn name rfl).resolve_left he)
      have hafter := scans_ignored ' ' _ _ rfl (scanner.scans_append _ _ _ _ hname ht ho)
      have hall := hkeyword _ _ hafter (scanner.opens_cons ' ' _ rfl)
      rw [operationHeading, if_neg (fun hb => he (String.isEmpty_iff.mp hb)), String.toList_append,
        String.toList_append, List.append_assoc, List.append_assoc, operationName, if_neg he]
      exact hall

theorem slotsPresentable_roots (roots : List Block) (h : ∀ root ∈ roots, BlockPresentable root) :
    SlotsPresentable (roots.map some) := by
  induction roots with
  | nil => trivial
  | cons root roots ih =>
    exact ⟨h root (by simp), ih (fun other ho => h other (by simp [ho]))⟩

theorem operation_tokens (keyword : Keyword) (name : Option String)
    (selections : List Selection) :
    Document.tokens [.operation keyword name [] [] selections] = .name keyword.text ::
      (nameTokens name ++ .mark '{' :: (Selection.allTokens selections ++ [.mark '}'])) := by
  simp [Document.tokens, Definition.tokens, setTokens, variableTokens, enclosed, directiveTokens]

/-- The text of a compiled operation derives exactly one document: the one operation of that
kind and name, whose selections say in order what the roots say. -/
theorem derives_compileOperation (kind : OperationKind) (name : Option String)
    (roots : List Block) (hn : ∀ n ∈ name, n = "" ∨ isName n = true) (hne : roots ≠ [])
    (hr : ∀ root ∈ roots, BlockPresentable root) :
    ∃ selections, Selection.AllDenote selections (roots.map some) ∧
      ∀ document, Derives (compileOperation kind name roots).render document ↔
        document = [.operation (Keyword.ofKind kind) (operationName name) [] [] selections] := by
  obtain ⟨selections, hd, hf, hlines⟩ := slots_derive _ (slotsPresentable_roots roots hr)
  have hsome : ∃ child, some child ∈ roots.map some := by
    obtain ⟨root, others, rfl⟩ := List.exists_cons_of_ne_nil hne
    exact ⟨root, by simp⟩
  have hend := scans_mark '}' _ _ rfl rfl (scans_ignored '\n' _ _ rfl scanner.scans_nil)
  have hbody := hlines _ _ hend (scanner.opens_cons '}' _ rfl)
  have hbraces := scans_ignored ' ' _ _ rfl
    (scans_mark '{' _ _ rfl rfl (scans_ignored '\n' _ _ rfl hbody))
  have hall := heading_derives kind name hn _ _ hbraces (scanner.opens_cons ' ' _ rfl)
  have hderives : Derives (compileOperation kind name roots).render
      [.operation (Keyword.ofKind kind) (operationName name) [] [] selections] := by
    refine ⟨⟨by simp, fun definition hm => ?_⟩, ?_⟩
    · rw [List.mem_singleton.mp hm]
      exact ⟨by simp, directivesFormed_nil, allDenote_ne_nil _ selections hd hsome, hf⟩
    · rw [Scanner.tokens, Block.render_compileOperation, String.toList_append, String.toList_append,
        String.toList_append, List.append_assoc, List.append_assoc, operation_tokens]
      exact scanner.scan_of_scans _ _ hall rfl
  exact ⟨selections, hd, fun document => ⟨fun h => h.unique hderives, fun h => h ▸ hderives⟩⟩

theorem representable_zero : Binary64.Representable 0 := by decide +kernel

def searchValues : List (Option BoundValue) :=
  [some (.text "\" \x7d\n"), some (.number (.finite true 0 representable_zero)),
    some (.enum "RED"), some (.boolean true), none]

def searchHeader (field : String) (values : List (Option BoundValue)) : Header :=
  { Header.fresh { number := 7 } "https://poke.example/graphql" field "Pokemon" with
    parameters := values.map fun value => { name := "p", typeName := "T", value } }

def searchTree : Block :=
  .object (searchHeader "search" searchValues)
    [none, some (.scalar (searchHeader "id" [])), some (.object (searchHeader "owner" [])
      [some (.scalar (searchHeader "name" []))])]

theorem searchTree_presentable : BlockPresentable searchTree := by
  have hvalues : ∀ p ∈ (searchHeader "search" searchValues).parameters,
      ParameterPresentable p := by
    intro p hp
    obtain ⟨value, hv, rfl⟩ := List.mem_map.mp hp
    refine ⟨(by decide : isName "p" = true), fun bound hb => ?_⟩
    simp only [searchValues, List.mem_cons, List.not_mem_nil, or_false] at hv
    rcases hv with rfl | rfl | rfl | rfl | rfl
    · cases hb
      trivial
    · cases hb
      exact ⟨_, _, _, rfl⟩
    · cases hb
      exact ⟨by decide, by decide⟩
    · cases hb
      trivial
    · cases hb
  have howner : BlockPresentable (.object (searchHeader "owner" [])
      [some (.scalar (searchHeader "name" []))]) :=
    ⟨by decide, fun p hp => absurd hp List.not_mem_nil, ⟨_, List.mem_cons_self⟩,
      (by decide : isName "name" = true), trivial⟩
  exact ⟨by decide, hvalues, ⟨_, List.mem_cons_of_mem _ List.mem_cons_self⟩,
    (by decide : isName "id" = true), howner, trivial⟩

theorem derives_compileOperation_searchTree :
    BlockPresentable searchTree ∧
      ∃ selections, Selection.AllDenote selections [some searchTree] ∧
        ∀ document,
          Derives (compileOperation .mutation (some "Save") [searchTree]).render document ↔
            document = [.operation .mutation (some "Save") [] [] selections] := by
  refine ⟨searchTree_presentable, derives_compileOperation .mutation (some "Save") [searchTree]
    ?_ (by simp) ?_⟩
  · intro n hn
    cases hn
    exact Or.inr (by decide)
  · intro root hroot
    rw [List.mem_singleton.mp hroot]
    exact searchTree_presentable

end QueryBlocks.Query
