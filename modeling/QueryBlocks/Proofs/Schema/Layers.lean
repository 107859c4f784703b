import QueryBlocks.Schema.TypeRef

/-!
# Layers around a type

What resolution makes of a reference, told by the lists and non-null marks around its base. The
base is one of the references that resolution looks at, so it is found under fewer layers than the
limit; under as many layers as the limit the reference is refused as still wrapped, whether or not
a layer is left.
-/

set_option autoImplicit false

namespace QueryBlocks.TypeRef

/-- The second reference stands under a number of layers of the first. -/
inductive Under : Nat → TypeRef → TypeRef → Prop where
  | bare (ref : TypeRef) : Under 0 ref ref
  | layer (n : Nat) (kind : TypeKind) (name : Option String) (inner rest : TypeRef)
      (wrapping : kind.isWrapping = true) (h : Under n inner rest) :
      Under (n + 1) (.around kind name inner) rest

theorem under_unique (n : Nat) (ref a b : TypeRef) (ha : Under n ref a) (hb : Under n ref b) :
    a = b := by
  induction ha with
  | bare ref =>
    cases hb
    rfl
  | layer n kind name inner a wrapping ha ih =>
    cases hb with
    | layer _ _ _ _ _ _ hb => exact ih hb

/-- Where resolution ends that looks at no more references than a limit. -/
inductive Ends (limit : Nat) (ref : TypeRef) : Except UnresolvableType BaseType → Prop where
  | named (n : Nat) (rest : TypeRef) (name : String) (hn : n < limit) (h : Under n ref rest)
      (hk : rest.kind.isWrapping = false) (hname : rest.name = some name) :
      Ends limit ref (.ok { name, kind := rest.kind })
  | unnamed (n : Nat) (rest : TypeRef) (hn : n < limit) (h : Under n ref rest)
      (hk : rest.kind.isWrapping = false) (hname : rest.name = none) :
      Ends limit ref (.error (.unnamed rest.kind))
  | hollow (n : Nat) (rest : TypeRef) (hn : n < limit) (h : Under n ref rest)
      (hk : rest.kind.isWrapping = true) (hinner : rest.inner? = none) :
      Ends limit ref (.error (.missingInner rest.kind))
  | deep (rest : TypeRef) (h : Under limit ref rest) : Ends limit ref (.error .tooDeep)

theorem Ends.layer (limit : Nat) (kind : TypeKind) (name : Option String) (inner : TypeRef)
    (result : Except UnresolvableType BaseType) (wrapping : kind.isWrapping = true)
    (h : Ends limit inner result) : Ends (limit + 1) (.around kind name inner) result := by
  cases h with
  | named n rest found hn h hk hname =>
    exact .named (n + 1) rest found (by omega) (.layer n kind name inner rest wrapping h) hk hname
  | unnamed n rest hn h hk hname =>
    exact .unnamed (n + 1) rest (by omega) (.layer n kind name inner rest wrapping h) hk hname
  | hollow n rest hn h hk hinner =>
    exact .hollow (n + 1) rest (by omega) (.layer n kind name inner rest wrapping h) hk hinner
  | deep rest h => exact .deep rest (.layer limit kind name inner rest wrapping h)

/-- Resolution ends somewhere. -/
theorem ends_resolveWithin (limit : Nat) (ref : TypeRef) :
    Ends limit ref (resolveWithin limit ref) := by
  induction limit generalizing ref with
  | zero => exact .deep ref (.bare ref)
  | succ limit ih =>
    rw [resolveWithin]
    cases hk : ref.kind.isWrapping with
    | true =>
      cases ref with
      | plain kind name => exact .hollow 0 _ (Nat.succ_pos limit) (.bare _) hk rfl
      | around kind name inner => exact (ih inner).layer limit kind name inner _ hk
    | false =>
      cases hname : ref.name with
      | some name => exact .named 0 ref name (Nat.succ_pos limit) (.bare ref) hk hname
      | none => exact .unnamed 0 ref (Nat.succ_pos limit) (.bare ref) hk hname

/-- Layers that are looked at do not change what comes of the reference under them. -/
theorem resolveWithin_under (n more : Nat) (ref rest : TypeRef) (h : Under n ref rest) :
    resolveWithin (n + more) ref = resolveWithin more rest := by
  induction h with
  | bare ref => rw [Nat.zero_add]
  | layer n kind name inner rest wrapping h ih =>
    rw [Nat.add_right_comm, resolveWithin]
    exact (if_pos wrapping).trans ih

theorem resolveWithin_reached (limit n : Nat) (ref rest : TypeRef) (hn : n < limit)
    (h : Under n ref rest) :
    ∃ more, resolveWithin limit ref = resolveWithin (more + 1) rest := by
  obtain ⟨more, rfl⟩ := Nat.exists_eq_add_of_lt hn
  exact ⟨more, resolveWithin_under n (more + 1) ref rest h⟩

/-- Resolution ends nowhere else. -/
theorem resolveWithin_ends (limit : Nat) (ref : TypeRef)
    (result : Except UnresolvableType BaseType) (h : Ends limit ref result) :
    resolveWithin limit ref = result := by
  cases h with
  | named n rest name hn h hk hname =>
    obtain ⟨more, hr⟩ := resolveWithin_reached limit n ref rest hn h
    simp [hr, resolveWithin, hk, hname]
  | unnamed n rest hn h hk hname =>
    obtain ⟨more, hr⟩ := resolveWithin_reached limit n ref rest hn h
    simp [hr, resolveWithin, hk, hname]
  | hollow n rest hn h hk hinner =>
    obtain ⟨more, hr⟩ := resolveWithin_reached limit n ref rest hn h
    simp [hr, resolveWithin, hk, hinner]
  | deep rest h => exact resolveWithin_under limit 0 ref rest h

theorem resolveBase_iff (ref : TypeRef) (result : Except UnresolvableType BaseType) :
    ref.resolveBase = result ↔ Ends maxWrappingDepth ref result :=
  ⟨fun h => h ▸ ends_resolveWithin maxWrappingDepth ref,
    resolveWithin_ends maxWrappingDepth ref result⟩

theorem ends_ok_iff (limit : Nat) (ref : TypeRef) (base : BaseType) :
    Ends limit ref (.ok base) ↔
      ∃ n rest, n < limit ∧ Under n ref rest ∧ rest.kind = base.kind ∧
        base.kind.isWrapping = false ∧ rest.name = some base.name := by
  constructor
  · intro h
    cases h with
    | named n rest name hn h hk hname => exact ⟨n, rest, hn, h, rfl, hk, hname⟩
  · obtain ⟨name, kind⟩ := base
    rintro ⟨n, rest, hn, h, rfl, hk, hname⟩
    exact .named n rest name hn h hk hname

/-- A named type that is no layer itself, under at most 31 layers of the reference. -/
def HasBase (ref : TypeRef) (base : BaseType) : Prop :=
  ∃ n rest, n < 32 ∧ Under n ref rest ∧ rest.kind = base.kind ∧ base.kind.isWrapping = false ∧
    rest.name = some base.name

theorem resolveBase_eq_ok (ref : TypeRef) (base : BaseType) :
    ref.resolveBase = .ok base ↔ ref.HasBase base :=
  (resolveBase_iff ref (.ok base)).trans (ends_ok_iff maxWrappingDepth ref base)

/-- A reference has the base that stands under fewer layers than the limit, and that base is no
layer itself. It has none if the reference there has no name, if a layer before the limit has
nothing inside, or if there are as many layers as the limit, whatever is under them. -/
theorem resolveBase_layers (ref : TypeRef) :
    (∀ base, ref.resolveBase = .ok base ↔
      ∃ n rest, n < maxWrappingDepth ∧ Under n ref rest ∧ rest.kind = base.kind ∧
        base.kind.isWrapping = false ∧ rest.name = some base.name) ∧
    (∀ kind, ref.resolveBase = .error (.unnamed kind) ↔
      ∃ n rest, n < maxWrappingDepth ∧ Under n ref rest ∧ rest.kind = kind ∧
        kind.isWrapping = false ∧ rest.name = none) ∧
    (∀ kind, ref.resolveBase = .error (.missingInner kind) ↔
      ∃ n rest, n < maxWrappingDepth ∧ Under n ref rest ∧ rest.kind = kind ∧
        kind.isWrapping = true ∧ rest.inner? = none) ∧
    (ref.resolveBase = .error .tooDeep ↔ ∃ rest, Under maxWrappingDepth ref rest) := by
  simp only [resolveBase_iff]
  refine ⟨ends_ok_iff _ ref, fun kind => ⟨?_, ?_⟩, fun kind => ⟨?_, ?_⟩, ?_, ?_⟩
  · intro h
    cases h with
    | unnamed n rest hn h hk hname => exact ⟨n, rest, hn, h, rfl, hk, hname⟩
  · rintro ⟨n, rest, hn, h, rfl, hk, hname⟩
    exact .unnamed n rest hn h hk hname
  · intro h
    cases h with
    | hollow n rest hn h hk hinner => exact ⟨n, rest, hn, h, rfl, hk, hinner⟩
  · rintro ⟨n, rest, hn, h, rfl, hk, hinner⟩
    exact .hollow n rest hn h hk hinner
  · intro h
    cases h with
    | deep rest h => exact ⟨rest, h⟩
  · rintro ⟨rest, h⟩
    exact .deep rest h

def lists : Nat → TypeRef → TypeRef
  | 0, ref => ref
  | n + 1, ref => .list (lists n ref)

theorem under_lists (n : Nat) (ref : TypeRef) : Under n (lists n ref) ref := by
  induction n with
  | zero => exact .bare ref
  | succ n ih => exact .layer n .list none (lists n ref) ref rfl ih

/-- A named scalar under as many lists as the limit is not found, and is refused as still wrapped
though no layer is left. -/
theorem scalar_at_limit_refused :
    (¬ ∀ ref n rest name, n ≤ maxWrappingDepth → Under n ref rest →
      rest.kind.isWrapping = false → rest.name = some name →
        ref.resolveBase = .ok { name, kind := rest.kind }) ∧
    (¬ ∀ ref, ref.resolveBase = .error .tooDeep ↔
      ∃ rest, Under maxWrappingDepth ref rest ∧ rest.kind.isWrapping = true) := by
  have hu := under_lists maxWrappingDepth (.named .scalar "Int")
  have hd : (lists maxWrappingDepth (.named .scalar "Int")).resolveBase = .error .tooDeep := rfl
  constructor
  · intro h
    have hok := h _ maxWrappingDepth _ "Int" (Nat.le_refl _) hu rfl rfl
    rw [hd] at hok
    cases hok
  · intro h
    obtain ⟨rest, hrest, hk⟩ := (h _).mp hd
    rw [under_unique maxWrappingDepth _ rest _ hrest hu] at hk
    cases hk

end QueryBlocks.TypeRef
