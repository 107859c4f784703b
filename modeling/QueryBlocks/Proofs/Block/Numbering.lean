import QueryBlocks.Block.Numbering

/-!
# Running what makes blocks

One step after the other: a failure ends a computation and keeps the numbers that were used,
and a step that makes no block passes the next number on.
-/

set_option autoImplicit false

namespace QueryBlocks

section

variable {ε σ α β : Type}

theorem run_bind (first : ExceptT ε (StateM σ) α) (thereafter : α → ExceptT ε (StateM σ) β)
    (start : σ) :
    (first >>= thereafter).run start =
      match first.run start with
      | (.ok value, after) => (thereafter value).run after
      | (.error fault, after) => (.error fault, after) := by
  change (match first.run start with
    | (result, after) => (ExceptT.bindCont thereafter result).run after) = _
  obtain ⟨result, after⟩ := first.run start
  cases result with
  | ok value => rfl
  | error fault => rfl

/-- A computation that ends well has run both of its steps well. -/
theorem run_bind_eq_ok (first : ExceptT ε (StateM σ) α) (thereafter : α → ExceptT ε (StateM σ) β)
    (start stop : σ) (value : β) (h : (first >>= thereafter).run start = (.ok value, stop)) :
    ∃ found mid, first.run start = (.ok found, mid) ∧
      (thereafter found).run mid = (.ok value, stop) := by
  rw [run_bind] at h
  cases hr : first.run start with
  | mk result mid =>
    rw [hr] at h
    cases result with
    | ok found => exact ⟨found, mid, rfl, h⟩
    | error fault => cases h

theorem run_ofExcept (result : Except ε α) (next : Nat) :
    (liftM result : TryNumbering ε α).run next = (result, next) := rfl

theorem run_ofNumbering (made : Numbering α) (next : Nat) :
    (liftM made : TryNumbering ε α).run next = (.ok (made.run next).1, (made.run next).2) := rfl

end

namespace Template

def header (template : Template) (next : Nat) : Header :=
  { id := { number := next }
    endpoint := template.endpoint
    field := template.field
    typeName := template.typeName
    parameters := template.parameters.map fun p =>
      { name := p.name, typeName := p.typeName, value := none }
    state := .unbound
    description := template.description
    typeDescription := none }

def block (template : Template) (next : Nat) : Block :=
  if template.isObject then .object (template.header next) [none]
  else .scalar (template.header next)

theorem header_block (template : Template) (next : Nat) :
    (template.block next).header = template.header next := by
  unfold block
  split <;> rfl

theorem isObject_block (template : Template) (next : Nat) :
    (template.block next).isObject = template.isObject := by
  unfold block
  cases template.isObject <;> rfl

theorem run_ofTemplate (template : Template) (next : Nat) :
    (Block.ofTemplate template).run next = (template.block next, next + 1) := by
  unfold Block.ofTemplate block
  split <;> rfl

end Template

end QueryBlocks
