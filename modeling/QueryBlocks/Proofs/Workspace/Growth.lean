import QueryBlocks.Proofs.Block.Edits
import QueryBlocks.Proofs.Schema.Offers
import QueryBlocks.Proofs.Workspace.Creation
import QueryBlocks.Proofs.Workspace.Pass

/-!
# Trees grown from what is offered

A tree is begun with a template that the cache offers for an endpoint and grows by children
made from such templates, at any place and index. Where the schema is consistent, every block
of the tree is bound from the moment it is in the tree, and the next pass finds it so.
-/

set_option autoImplicit false

namespace QueryBlocks.Growth

structure State where
  tree : Block
  workspace : Workspace
  next : Nat

/-- The trees that grow from what the cache offers for an endpoint, at every moment of their
growth. -/
inductive Grown (cache : SchemaCache) (endpoint : String) : State → Prop where
  | begun (template : Template) (workspace told : Workspace) (next after : Nat) (tree : Block)
      (offered : cache.Offers endpoint template)
      (made : (cache.createBlock template workspace).run next = ((tree, told), after)) :
      Grown cache endpoint { tree, workspace := told, next := after }
  | branched (s : State) (earlier : Grown cache endpoint s) (path : List Nat) (index : Nat)
      (template : Template) (parent widened tree : Block) (id : BlockId) (told : Workspace)
      (after : Nat) (offered : cache.Offers endpoint template)
      (found : Block.atPath? path s.tree = some parent)
      (made : (cache.insertChild index template parent s.workspace).run s.next =
        (.ok (id, widened, told), after))
      (placed : Block.editPath? (fun _ => ((), widened)) path s.tree = some ((), tree)) :
      Grown cache endpoint { tree, workspace := told, next := after }

structure Settled (schema : Schema) (endpoint : String) (workspace : Workspace) (next : Nat)
    (isObject : Bool) (header : Header) : Prop where
  home : header.endpoint = endpoint
  older : header.id.number < next
  bound : header.state = .bound
  listed : ∃ type, schema.type? header.typeName = some type ∧
    decide (type.kind = .object) = isObject ∧
    workspace.lastResult? header.id =
      some (.bound (if isObject then type.templates endpoint else []))

section

variable (cache : SchemaCache) (schema : Schema) (endpoint : String)

theorem revalidateHeader_listed (isObject : Bool) (header : Header) (type : TypeDef)
    (hs : cache.get? endpoint = some schema) (he : header.endpoint = endpoint)
    (ht : schema.type? header.typeName = some type)
    (hk : decide (type.kind = .object) = isObject) :
    cache.revalidateHeader isObject header =
      (.bound (if isObject then type.templates endpoint else []),
        { header with state := .bound, typeDescription := type.description }) := by
  subst he
  simp only [SchemaCache.revalidateHeader, hs, Schema.typeOf, ht, hk, if_true]

/-- An entry in the log is no delivery. -/
theorem settled_record (workspace : Workspace) (event : SurfaceEvent) (next : Nat)
    (isObject : Bool) (header : Header)
    (h : Settled schema endpoint workspace next isObject header) :
    Settled schema endpoint (workspace.record event) next isObject header :=
  ⟨h.home, h.older, h.bound, h.listed⟩

theorem lastResult?_announce (template : Template) (next : Nat) (workspace : Workspace)
    (id : BlockId) :
    (cache.announce template next workspace).lastResult? id =
      if id = { number := next } then some (cache.revalidate (template.block next)).1
      else workspace.lastResult? id := by
  by_cases h : id = { number := next }
  · subst h
    simp [SchemaCache.announce, Workspace.deliver, Workspace.record, Workspace.lastResult?]
  · have hn : ¬ ({ number := next } : BlockId) = id := fun e => h e.symm
    simp [SchemaCache.announce, Workspace.deliver, Workspace.record, Workspace.lastResult?, h, hn]

/-- A new block is settled as soon as it has been announced. -/
theorem settled_created (template : Template) (next : Nat) (workspace : Workspace)
    (hs : cache.get? endpoint = some schema) (he : template.endpoint = endpoint)
    (hb : schema.Backs template) :
    Settled schema endpoint (cache.announce template next workspace) (next + 1)
      template.isObject (cache.created template next).header := by
  obtain ⟨type, ht, hk⟩ := hb
  have hr := revalidateHeader_listed cache schema endpoint template.isObject
    (template.header next) type hs he ht hk
  rw [cache.header_created, hr]
  refine ⟨he, Nat.lt_succ_self next, rfl, type, ht, hk, ?_⟩
  rw [lastResult?_announce]
  change (if ({ number := next } : BlockId) = { number := next } then _ else _) = _
  rw [if_pos rfl, SchemaCache.revalidate, template.isObject_block, template.header_block, hr]

/-- A settled block stays settled when a newer one is announced. -/
theorem settled_later (template : Template) (next : Nat) (workspace : Workspace)
    (isObject : Bool) (header : Header)
    (h : Settled schema endpoint workspace next isObject header) :
    Settled schema endpoint (cache.announce template next workspace) (next + 1) isObject
      header := by
  obtain ⟨type, ht, hk, hr⟩ := h.listed
  refine ⟨h.home, Nat.lt_succ_of_lt h.older, h.bound, type, ht, hk, ?_⟩
  have hn : header.id ≠ { number := next } := fun e => by
    have ho := h.older
    rw [e] at ho
    exact Nat.lt_irrefl next ho
  rw [lastResult?_announce, if_neg hn]
  exact hr

/-- What a check makes of a settled block it has already made of it. -/
theorem revalidate_settled (workspace : Workspace) (next : Nat) (block : Block)
    (hs : cache.get? endpoint = some schema)
    (h : Settled schema endpoint workspace next block.isObject block.header) :
    ∃ type, schema.type? block.header.typeName = some type ∧
      (cache.revalidate block).1 =
        .bound (if block.isObject then type.templates endpoint else []) ∧
      workspace.lastResult? block.id = some (cache.revalidate block).1 := by
  obtain ⟨type, ht, hk, hr⟩ := h.listed
  have hc := revalidateHeader_listed cache schema endpoint block.isObject block.header type hs
    h.home ht hk
  refine ⟨type, ht, ?_, ?_⟩
  · rw [SchemaCache.revalidate, hc]
  · rw [SchemaCache.revalidate, hc]
    exact hr

theorem everywhere_block (p : Bool → Header → Prop) (template : Template) (next : Nat)
    (h : p template.isObject (cache.created template next).header) :
    Block.Everywhere p (cache.created template next) := by
  intro b hb
  rw [cache.preorder_created, List.mem_singleton] at hb
  rw [hb, cache.isObject_created]
  exact h

theorem mem_insertIdx_some (slots : List (Option Block)) (index : Nat) (child other : Block)
    (hi : index ≤ slots.length) (h : some other ∈ slots.insertIdx index (some child)) :
    other = child ∨ some other ∈ slots := by
  rw [List.mem_insertIdx hi, Option.some.injEq] at h
  exact h

theorem everywhere_mono (p q : Bool → Header → Prop) (block : Block)
    (hpq : ∀ isObject header, p isObject header → q isObject header)
    (h : Block.Everywhere p block) : Block.Everywhere q block :=
  fun b hb => hpq _ _ (h b hb)

/-- A block that gets a new child keeps what holds everywhere in it, if it holds of the child. -/
theorem everywhere_widened (p : Bool → Header → Prop) (header : Header)
    (slots : List (Option Block)) (index : Nat) (child : Block) (hi : index ≤ slots.length)
    (h : Block.Everywhere p (.object header slots)) (hc : Block.Everywhere p child) :
    Block.Everywhere p (.object header (slots.insertIdx index (some child))) := by
  obtain ⟨hp, hs⟩ := (Block.everywhere_object p header slots).mp h
  refine (Block.everywhere_object p header _).mpr ⟨hp, fun other ho => ?_⟩
  rcases mem_insertIdx_some slots index child other hi ho with rfl | ho
  · exact hc
  · exact hs other ho

/-- Every block of a grown tree is settled, at every moment. -/
theorem everywhere_settled (hs : cache.get? endpoint = some schema) (hc : schema.Consistent)
    (s : State) (h : Grown cache endpoint s) :
    Block.Everywhere (Settled schema endpoint s.workspace s.next) s.tree := by
  induction h with
  | begun template workspace told next after tree offered made =>
    obtain ⟨he, hb⟩ := cache.backs_of_offers endpoint schema hs hc template offered
    rw [cache.run_createBlock] at made
    cases made
    exact everywhere_block cache _ template next
      (settled_created cache schema endpoint template next workspace hs he hb)
  | branched s earlier path index template parent widened tree id told after offered found made
      placed ih =>
    obtain ⟨he, hb⟩ := cache.backs_of_offers endpoint schema hs hc template offered
    rw [cache.run_insertChild] at made
    cases parent with
    | scalar header => cases made
    | object header slots =>
      by_cases hi : index ≤ slots.length
      · simp only [if_pos hi] at made
        cases made
        -- the older blocks first, then the new child, then the tree around both
        have hold := everywhere_mono _
          (Settled schema endpoint ((cache.announce template s.next s.workspace).record
            (.structureChanged header.id)) (s.next + 1)) s.tree
          (fun isObject header h => settled_record schema endpoint _ _ _ _ _
            (settled_later cache schema endpoint template s.next s.workspace isObject header h)) ih
        have hchild := everywhere_block cache _ template s.next
          (settled_record schema endpoint _ (.structureChanged header.id) _ _ _
            (settled_created cache schema endpoint template s.next s.workspace hs he hb))
        exact Block.everywhere_editPath? _ _ path s.tree tree () hold
          (fun b _ => everywhere_widened _ header slots index _ hi
            (Block.everywhere_atPath? _ path s.tree _ hold found) hchild) placed
      · simp only [if_neg hi] at made
        cases made

/-- A pass over a workspace with a grown tree and no other block of its endpoint. -/
theorem liveBlocks_grown (tree : Block) (workspace : Workspace) (before after : List Block)
    (h : workspace.roots = before ++ tree :: after)
    (hother : ∀ root ∈ before ++ after, ∀ block ∈ root.preorder, block.endpoint ≠ endpoint)
    (htree : ∀ block ∈ tree.preorder, block.endpoint = endpoint) :
    workspace.liveBlocks endpoint = tree.preorder := by
  have hnone : ∀ roots : List Block, (∀ root ∈ roots, root ∈ before ++ after) →
      (roots.flatMap Block.preorder).filter (fun block => block.endpoint == endpoint) = [] := by
    intro roots hr
    rw [List.filter_eq_nil_iff]
    intro block hb
    obtain ⟨root, hm, hb⟩ := List.mem_flatMap.mp hb
    rw [beq_iff_eq]
    exact hother root (hr root hm) block hb
  rw [Workspace.liveBlocks, Workspace.blocks, h, List.flatMap_append, List.flatMap_cons,
    List.filter_append, List.filter_append, hnone before (fun root hr => List.mem_append_left _ hr),
    hnone after (fun root hr => List.mem_append_right _ hr), List.append_nil, List.nil_append,
    List.filter_eq_self]
  intro block hb
  rw [beq_iff_eq]
  exact htree block hb

/-- In a consistent schema every block of a tree grown from what is offered is bound, at every
moment; an object block was told of, and would be told of now, exactly the templates that are
offered for its type; and a pass over the tree finds every block bound. -/
theorem bound_of_grown (hs : cache.get? endpoint = some schema) (hc : schema.Consistent)
    (s : State) (h : Grown cache endpoint s) :
    (∀ block ∈ s.tree.preorder, block.header.state = .bound ∧
      ∃ suggestions, s.workspace.lastResult? block.id = some (.bound suggestions) ∧
        (cache.revalidate block).1 = .bound suggestions ∧
        (block.isObject = true →
          cache.suggestions endpoint block.header.typeName = some suggestions)) ∧
    (∀ workspace before after, workspace.roots = before ++ s.tree :: after →
      (∀ root ∈ before ++ after, ∀ block ∈ root.preorder, block.endpoint ≠ endpoint) →
        (cache.syncEndpoint endpoint workspace).1 =
          { endpoint, bound := s.tree.preorder.length, stale := 0, unbound := 0 }) := by
  have hall := everywhere_settled cache schema endpoint hs hc s h
  constructor
  · intro block hb
    obtain ⟨type, ht, hr, hl⟩ := revalidate_settled cache schema endpoint s.workspace s.next block
      hs (hall block hb)
    refine ⟨(hall block hb).bound, _, hl.trans (congrArg some hr), hr, fun ho => ?_⟩
    rw [ho, if_pos rfl]
    exact cache.suggestions_eq endpoint schema _ type hs ht
  · intro workspace before after hr hother
    rw [cache.report_pass, liveBlocks_grown endpoint s.tree workspace before after hr hother
      fun block hb => (hall block hb).home]
    have hstates : s.tree.preorder.map (fun block => (cache.revalidate block).1.state?) =
        s.tree.preorder.map fun _ => some .bound := by
      apply List.map_congr_left
      intro block hb
      obtain ⟨type, -, hr, -⟩ := revalidate_settled cache schema endpoint s.workspace s.next block
        hs (hall block hb)
      rw [hr]
      rfl
    rw [hstates, SyncReport.ofStates, List.map_const']
    simp [BlockState.isStale, List.count_replicate]

end

def scalarRef (name : String) : TypeRef := .nonNull (.named .scalar name)

def pokemonSchema : Schema :=
  { queryType := "Query"
    mutationType := none
    types :=
      { entries :=
          [("Query", { name := "Query", kind := .object, description := none, fields :=
              [{ name := "pokemon", type := .named .object "Pokemon", description := none
                 args := [{ name := "id", type := scalarRef "ID" }] },
               { name := "nodes", type := .nonNull (.list (.named .interface "Node"))
                 args := [], description := some "All there is" },
               { name := "lost", type := .plain .list none, args := [], description := none }] }),
           ("Pokemon", { name := "Pokemon", kind := .object, description := none, fields :=
              [{ name := "name", type := scalarRef "String", args := [], description := none },
               { name := "friends", type := .list (.named .object "Pokemon"), args := []
                 description := none }] }),
           ("Node", { name := "Node", kind := .interface, description := none, fields := [] }),
           ("String", { name := "String", kind := .scalar, description := none, fields := [] })]
        distinct := by decide } }

def pokemonCache : SchemaCache := SchemaCache.empty.insert "https://poke.example" pokemonSchema

def templateOf (field typeName : String) (isObject : Bool)
    (parameters : List TemplateParameter) (description : Option String) : Template :=
  { endpoint := "https://poke.example", field, typeName, isObject, parameters, description }

def pokemonTemplate : Template :=
  templateOf "pokemon" "Pokemon" true
    [{ name := "id", typeName := "ID", primitive := some .text }] none

def friendsTemplate : Template := templateOf "friends" "Pokemon" true [] none

def nodesTemplate : Template := templateOf "nodes" "Node" false [] (some "All there is")

theorem consistent_pokemonSchema : pokemonSchema.Consistent := by
  intro entry he field hf base hb _
  have hall : ∀ entry ∈ pokemonSchema.types.entries, ∀ field ∈ entry.2.fields,
      (match field.type.resolveBase with
        | .ok base => (pokemonSchema.type? base.name).map (fun type =>
            decide (type.kind = .object)) == some (decide (base.kind = .object))
        | .error _ => true) = true := by
    decide
  have h := hall entry he field hf
  rw [hb, beq_iff_eq] at h
  obtain ⟨type, ht, hk⟩ := Option.map_eq_some_iff.mp h
  exact ⟨type, ht, decide_eq_decide.mp hk⟩

/-- A root, an object block in front of its empty slot, and below that a block for a field of
another type. -/
theorem bound_of_grown_pokemonTree :
    pokemonCache.get? "https://poke.example" = some pokemonSchema ∧ pokemonSchema.Consistent ∧
      ∃ s, Grown pokemonCache "https://poke.example" s ∧
        (∀ block ∈ s.tree.preorder, block.header.state = .bound) ∧
        (pokemonCache.syncEndpoint "https://poke.example"
          { Workspace.empty with roots := [s.tree] }).1 =
            { endpoint := "https://poke.example", bound := 3, stale := 0, unbound := 0 } := by
  have hroot : pokemonCache.Offers "https://poke.example" pokemonTemplate :=
    .ofRoot .query _ rfl (by decide)
  have hfriends : pokemonCache.Offers "https://poke.example" friendsTemplate :=
    .ofType "Pokemon" _ rfl (by decide)
  have hnodes : pokemonCache.Offers "https://poke.example" nodesTemplate :=
    .ofType "Query" _ rfl (by decide)
  have hs := Grown.branched _ (Grown.branched _ (Grown.begun pokemonTemplate .empty _ 1 _ _ hroot
    rfl) [] 0 friendsTemplate _ _ _ _ _ _ hfriends rfl rfl rfl) [0] 1 nodesTemplate _ _ _ _ _ _
    hnodes rfl rfl rfl
  have h := bound_of_grown pokemonCache pokemonSchema "https://poke.example" rfl
    consistent_pokemonSchema _ hs
  refine ⟨rfl, consistent_pokemonSchema, _, hs, fun block hb => (h.1 block hb).1, ?_⟩
  exact h.2 _ [] [] rfl (fun root hr => nomatch hr)

end QueryBlocks.Growth
