import QueryBlocks.Command.Session
import QueryBlocks.Proofs.Block.Numbering

/-!
# What the steps of a command do

Each step of a command as an equation between the progress before it and the progress after it.
-/

set_option autoImplicit false

namespace QueryBlocks.Command

section

variable {ε α : Type} (failure : ε → Failure) (p : Progress)

theorem run_orFail_ok (value : α) : (orFail failure (.ok value)).run p = (.ok value, p) := rfl

theorem run_orFail_error (cause : ε) :
    (orFail failure (.error cause) : Run α).run p = (.error (failure cause), p) := rfl

end

/-- Sending always brings an answer, and writes nothing. -/
theorem run_send (settings : Settings) (endpoint document : String) (p : Progress) :
    ∃ answer replies sent, (send settings endpoint document).run p =
      (.ok answer, { p with replies, sent }) := by
  simp only [send]
  cases Http.request? settings.transport.toHttp endpoint document
      (settings.headersFor endpoint) with
  | none => exact ⟨_, _, _, rfl⟩
  | some request => exact ⟨_, _, _, rfl⟩

def warningLines (blocks : List StaleBlock) : String :=
  String.join (blocks.map fun block => "! " ++ staleText block ++ "\n")

/-- Warnings go to the errors. -/
theorem run_warnings (blocks : List StaleBlock) (p : Progress) :
    (blocks.forM fun block => printWarning (staleText block)).run p =
      ((.ok (), { p with errors := p.errors ++ warningLines blocks }) :
        Except Failure Unit × Progress) := by
  induction blocks generalizing p with
  | nil =>
    rw [warningLines, List.map_nil, String.join_nil, String.append_empty]
    rfl
  | cons block blocks ih =>
    rw [warningLines, List.map_cons, String.join_cons, ← String.append_assoc,
      ← String.append_assoc]
    exact ih { p with errors := p.errors ++ ("! " ++ staleText block) ++ "\n" }

def HoldsTree (surroundings : Surroundings) (file : String) (tree : Block) : Prop :=
  ∃ text, surroundings.files file = .ok text ∧ ((Block.ofTreeText text).run 1).1 = .ok tree

/-- Loading a tree writes nothing and sends nothing, and either always fails or always gives the
tree in the file. -/
theorem run_loadTree (surroundings : Surroundings) (file : String) :
    (∃ failure, ∀ p, (loadTree surroundings file).run p = (.error failure, p)) ∨
      ∃ tree, HoldsTree surroundings file tree ∧
        ∀ p, (loadTree surroundings file).run p = (.ok tree, p) := by
  cases hf : surroundings.files file with
  | error cause =>
    refine .inl ⟨.unreadable file cause, fun p => ?_⟩
    rw [loadTree, hf, run_bind, run_orFail_error]
  | ok text =>
    cases ht : ((Block.ofTreeText text).run 1).1 with
    | error cause =>
      refine .inl ⟨.badTree file cause, fun p => ?_⟩
      simp only [loadTree, hf, run_bind, run_orFail_ok, ht, run_orFail_error]
    | ok tree =>
      refine .inr ⟨tree, ⟨text, hf, ht⟩, fun p => ?_⟩
      simp only [loadTree, hf, run_bind, run_orFail_ok, ht]

def checkNotice (endpoint : String) (report : SyncReport) : String :=
  if report.stale = 0 then
    "✓ " ++ (toString report.bound ++ " blocks match " ++ endpoint) ++ "\n"
  else ""

/-- A check sends one request. If its answer holds no schema the check fails, else it tells about
stale blocks and says so if there are none. -/
theorem run_checkTree_of_answer (settings : Settings) (root : Block) (answer : Answer)
    (p sent : Progress)
    (h : (send settings root.endpoint Introspection.document).run p = (.ok answer, sent)) :
    (checkTree settings root).run p =
      match TreeCheck.ofAnswer answer root with
      | .error cause => (.error (.introspection root.endpoint cause), sent)
      | .ok check =>
        (.ok check,
          { sent with
            output := sent.output ++ checkNotice root.endpoint check.report
            errors := sent.errors ++ warningLines check.stale }) := by
  rw [checkTree, run_bind, h]
  cases hc : TreeCheck.ofAnswer answer root with
  | error cause => simp only [hc, run_bind, run_orFail_error]
  | ok check =>
    simp only [hc, run_bind, run_orFail_ok, run_warnings]
    unfold checkNotice
    by_cases hs : check.report.stale = 0
    · simp only [if_pos hs]
      rfl
    · simp only [if_neg hs, String.append_empty]
      rfl

/-- A check that succeeds holds the tree against some answer, and says so if no block is
stale. -/
theorem run_checkTree (settings : Settings) (root : Block) (check : TreeCheck)
    (p after : Progress) (h : (checkTree settings root).run p = (.ok check, after)) :
    (∃ answer, TreeCheck.ofAnswer answer root = .ok check) ∧
      after.output = p.output ++ checkNotice root.endpoint check.report := by
  obtain ⟨answer, replies, sent, hsend⟩ :=
    run_send settings root.endpoint Introspection.document p
  rw [run_checkTree_of_answer settings root answer p _ hsend] at h
  cases hc : TreeCheck.ofAnswer answer root with
  | error cause =>
    rw [hc] at h
    cases h
  | ok found =>
    rw [hc] at h
    cases h
    exact ⟨⟨answer, hc⟩, rfl⟩

end QueryBlocks.Command
