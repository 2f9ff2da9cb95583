/-
This file proves where an engine call leaves a rotation that it asks no next job for.
-/

import Sprawl.Proof.CallTrace
import Sprawl.Proof.StepOrder

namespace Sprawl

open Effect

variable {κ : Type}

/-- A rotation whose done steps come first. Without steps it never leaves its first statuses. -/
structure Disciplined (rows : Rows) : Prop where
  inOrder : InOrder rows
  bare : rows.steps = [] → rows.rotation.status.isTerminal = true ∨
    rows.rotation.status = .pendingApproval ∨ rows.rotation.status = .needsReplan

/-- The next step is a revoke step behind an unfinished verify step. -/
def Rows.Gated (rows : Rows) (time : Time) : Prop :=
  rows.rotation.status.isTerminal = false ∧ rows.rotation.expired time = false ∧
    ∃ step ∈ rows.nextStep, step.kind = .revoke ∧
      (step.requiresConfirmation = true → rows.rotation.status = .awaitingConfirmation) ∧
      rows.answer (.incompleteVerify rows.rotation.id) ≠ (0 : Nat)

instance (rows : Rows) (time : Time) : Decidable (rows.Gated time) :=
  inferInstanceAs (Decidable (_ ∧ _))

/-- The next step waits for a confirmation, and the rotation shows it. -/
def Rows.Paused (rows : Rows) : Prop :=
  rows.rotation.status = .awaitingConfirmation ∧
    ∃ step ∈ rows.nextStep, step.requiresConfirmation = true

instance (rows : Rows) : Decidable rows.Paused := inferInstanceAs (Decidable (_ ∧ _))

/-- These are the rows after an engine call without a next job. -/
inductive Halts (rows after : Rows) (time : Time) : Prop where
  | ended (terminal : after.rotation.status.isTerminal = true)
  | expired (late : rows.rotation.expired time = true)
      (status : after.rotation.status = .needsReplan)
  | bare (live : Live rows time) (none : rows.steps = []) (same : after = rows)
  | paused (paused : after.Paused)
  | blocked (gated : rows.Gated time) (status : after.rotation.status = .awaitingConfirmation)

/-- A live rotation in order with an unfinished step has a next step. -/
theorem InOrder.not_stuck {rows : Rows} (inOrder : InOrder rows)
    (active : rows.rotation.status.isTerminal = false) (none : rows.nextStep = none) :
    ∀ step ∈ rows.steps, step.status = .done := by
  intro step inside
  obtain finished | waits := (inOrder.frontier active).covered step inside
  · exact finished
  · have loaded : step ∈ rows.ordered.insertionSort byIdx :=
      (List.mem_insertionSort byIdx).mpr (rows.mem_ordered.mpr inside)
    have unfound := List.find?_eq_none.mp none step loaded
    exact absurd (show step.status = .pending from waits) (by simpa using unfound)

theorem Settles.halts {rows after : Rows} {actor : String} {time : Time}
    (settles : Settles rows actor time after) : Halts rows after time := by
  cases settles with
  | expired active late => exact .expired late rfl
  | completed live some finished => exact .ended rfl
  | paused live step next flagged unpaused => exact .paused ⟨rfl, step, next, flagged⟩
  | blocked live step next passed revoke incomplete =>
      exact .blocked ⟨live.active, live.unexpired, step, next, revoke, passed, incomplete⟩ rfl

/-- An engine call that asks for no next job halts its rotation. -/
theorem advanceRotation_halts (connectors : Connectors κ) (actor : String)
    {session : Session Rows κ} (empty : session.pending = []) (inOrder : InOrder session.db) :
    let ran := (advanceRotation session.db.rotation.id session.db.rotation.workspaceId actor).run
      (Session.answer connectors) session
    ran.1.shouldContinue = false → Halts session.db ran.2.db session.clock := by
  intro ran stops
  have ends : EngineEnd connectors actor session ran.2 :=
    (advanceRotation_ensures connectors actor empty).final
  cases ends with
  | idle idles ends =>
      rw [ends.db]
      cases idles with
      | terminal terminal => exact .ended terminal
      | empty live none => exact .bare live none rfl
      | stuck live none unfinished =>
          obtain ⟨step, inside, unfinished⟩ := unfinished
          exact absurd (inOrder.not_stuck live.active none step inside) unfinished
  | settled after settles ends =>
      rw [ends.db]
      exact settles.halts
  | ran step executes ends =>
      cases ends with
      | rolledBack failed later rows undone ends =>
          rw [ends.db]
          exact .ended undone.status.1
      | finished done ends =>
          have continues : ran.1.shouldContinue = true ↔
              (session.outcome connectors step session.db.rotation).status = .done ∧
                (remainingSteps session.db.ordered step).isEmpty = false := by
            cases advanceRotation_trace connectors actor empty with
            | quiet none internal stops => exact absurd executes (none step)
            | ran other runs trace =>
                obtain rfl : step = other := Option.some.inj (executes.next.symm.trans runs.next)
                exact trace.continues
          have last : (remainingSteps session.db.ordered step).isEmpty = true := by
            by_contra more
            have again := continues.mpr ⟨done, by simpa using more⟩
            exact absurd (again.symm.trans stops) (by simp)
          rw [ends.db]
          apply Halts.ended
          rw [Rows.afterFinish_status, if_pos last]
          rfl

/-- An engine call that asks for a next job runs a step. -/
theorem advanceRotation_continues (connectors : Connectors κ) (actor : String)
    {session : Session Rows κ} (empty : session.pending = []) :
    ((advanceRotation session.db.rotation.id session.db.rotation.workspaceId actor).run
        (Session.answer connectors) session).1.shouldContinue = true →
      ∃ step, Executes session.db session.clock step := by
  intro continues
  cases advanceRotation_trace connectors actor empty with
  | quiet none internal stops => exact absurd (continues.symm.trans stops) (by simp)
  | ran step executes trace => exact ⟨step, executes⟩

namespace Disciplined

/-- Rows with the same steps and a status for rotations without steps are disciplined. -/
theorem of_bare {rows after : Rows} (disciplined : Disciplined rows) (inOrder : InOrder after)
    (keeps : Keeps RotationStep.identity rows after)
    (status : rows.steps = [] → after.rotation.status = rows.rotation.status ∨
      after.rotation.status.isTerminal = true ∨ after.rotation.status = .needsReplan) :
    Disciplined after where
  inOrder := inOrder
  bare none := by
    have before : rows.steps = [] := by
      have mapped := keeps.steps
      rw [none, List.map_nil] at mapped
      exact List.map_eq_nil_iff.mp mapped.symm
    rcases status before with same | terminal | replan
    · rw [same]
      exact disciplined.bare before
    · exact Or.inl terminal
    · exact Or.inr (Or.inr replan)

theorem proposed (proposal : Proposal) : Disciplined proposal.rows where
  inOrder := proposal.inOrder
  bare _ := Or.inr (Or.inl rfl)

/-- An engine call keeps a rotation disciplined. -/
theorem engineEnd {connectors : Connectors κ} {actor : String} {session final : Session Rows κ}
    (disciplined : Disciplined session.db) (ends : EngineEnd connectors actor session final) :
    Disciplined final.db := by
  apply disciplined.of_bare (disciplined.inOrder.engineEnd ends) (ends.keeps identity_engineless)
  intro none
  have unfound := Rows.nextStep_of_nil none
  cases ends with
  | idle idles ends =>
      rw [ends.db]
      exact Or.inl rfl
  | settled after settles ends =>
      rw [ends.db]
      cases settles with
      | expired active late => exact Or.inr (Or.inr rfl)
      | completed live some finished => exact absurd none some
      | paused live step next flagged unpaused => exact absurd next (unfound step)
      | blocked live step next passed revoke incomplete => exact absurd next (unfound step)
  | ran step executes ends => exact absurd executes.next (unfound step)

/-- A request keeps a rotation disciplined. -/
theorem handled {request : Request} {session final : Session Rows κ}
    {reply : Except HttpError Json} (disciplined : Disciplined session.db)
    (handled : Handled request session reply final) : Disciplined final.db := by
  apply disciplined.of_bare (disciplined.inOrder.handled handled) (handled.keeps identity_confirmless)
  intro none
  cases handled with
  | rejected claims role sent waiting body => exact Or.inr (Or.inl rfl)
  | _ => exact Or.inl rfl

end Disciplined

end Sprawl
