/-
This file proves when a flagged step runs only after its own confirmation.
-/

import Sprawl.Proof.Delivery
import Sprawl.Rotation.Sandbox

namespace Sprawl

open Effect

variable {κ : Type}

/-- A delivered job keeps the match between the rows and the accepted confirmations. -/
theorem Consented.deliver {proposal : Proposal} {world : World κ}
    (consented : Consented proposal world) (queued : Queued world) (index : Nat)
    (invocation : Invocation κ) : Consented proposal (world.deliver index invocation) := by
  cases found : world.session.queue[index]? with
  | none =>
      rw [World.deliver_none found]
      exact consented
  | some job =>
      obtain ⟨ended, ends, rows, _, accepted, _, _⟩ := World.deliver_end queued found invocation
      exact consented.engineEnd ends rfl rows accepted

/-- The runs of the queued system keep the match and the queue. -/
structure Tracked (proposal : Proposal) (world : World κ) : Prop where
  consented : Consented proposal world
  queued : Queued world

theorem Tracked.action {proposal : Proposal} {world : World κ} (tracked : Tracked proposal world)
    (action : JobAction κ) : Tracked proposal (action.step world) where
  queued := tracked.queued.action action
  consented := by
    cases action with
    | request request clock => exact tracked.consented.handle request clock
    | deliver index invocation => exact tracked.consented.deliver tracked.queued index invocation

theorem Tracked.visits {proposal : Proposal} {external : κ} {actions : List (JobAction κ)} :
    ∀ visit ∈ visits JobAction.step actions (World.proposed proposal external),
      Tracked proposal visit.1 :=
  invariant_visits_always (Tracked proposal) (fun _ action tracked => tracked.action action)
    ⟨Consented.proposed proposal external, by simp [World.proposed], rfl⟩

/-- A job finds the rotation paused, and the next step still waits for its own confirmation. -/
structure PausedStep (rows : Rows) (step : RotationStep) : Prop where
  paused : rows.rotation.status = .awaitingConfirmation
  next : rows.nextStep = some step
  flagged : step.requiresConfirmation = true
  verified : step.kind = .revoke → ∀ other ∈ rows.steps, other.kind = .verify →
    other.status = .done

/-- The engine takes the pause of the rotation for a confirmation of the step. -/
theorem pausedStep_iff {rows : Rows} (time : Time) {step : RotationStep} :
    PausedStep rows step ↔ Executes rows time step ∧ step.requiresConfirmation = true := by
  constructor
  · intro paused
    refine ⟨⟨⟨?_, ?_⟩, paused.next, fun _ => paused.paused, fun revoke =>
      (Rows.answer_incompleteVerify_eq_zero rows).mpr (paused.verified revoke)⟩, paused.flagged⟩
    · rw [paused.paused]
      rfl
    · unfold Rotation.expired
      rw [paused.paused]
      cases rows.rotation.planExpiresAt <;> rfl
  · intro given
    obtain ⟨executes, flagged⟩ := given
    exact ⟨executes.passed flagged, executes.next, flagged, fun revoke =>
      (Rows.answer_incompleteVerify_eq_zero rows).mp (executes.verified revoke)⟩

/-- A flagged step runs only after its own confirmation exactly in the runs where no job finds the
rotation paused before a step that still waits for it. -/
theorem flagged_step_confirmed_iff (proposal : Proposal) (external : κ)
    (actions : List (JobAction κ)) :
    (∀ visit ∈ visits JobAction.step actions (World.proposed proposal external),
      ∀ index invocation, visit.2 = .deliver index invocation →
        ∀ step, visit.1.delivers index invocation step → proposal.flags step.id →
          visit.1.hasConfirmed step.id) ↔
    ∀ visit ∈ visits JobAction.step actions (World.proposed proposal external),
      ∀ index invocation, visit.2 = .deliver index invocation →
        (∃ job, visit.1.session.queue[index]? = some job) →
          ∀ step, ¬ PausedStep visit.1.db step := by
  constructor
  · intro confirmed visit inside index invocation sent delivered step paused
    have tracked := Tracked.visits visit inside
    obtain ⟨executes, flagged⟩ := (pausedStep_iff invocation.clock).mp paused
    have present := (Rows.nextStep_eq_some executes.next).1
    obtain ⟨inserted, unconfirmed⟩ := (tracked.consented.flagged step present).mp flagged
    exact unconfirmed (confirmed visit inside index invocation sent step
      ((World.delivers_iff tracked.queued index invocation step).mpr ⟨delivered, executes⟩)
      inserted)
  · intro unpaused visit inside index invocation sent step runs inserted
    have tracked := Tracked.visits visit inside
    obtain ⟨delivered, executes⟩ :=
      (World.delivers_iff tracked.queued index invocation step).mp runs
    have present := (Rows.nextStep_eq_some executes.next).1
    by_contra unconfirmed
    have flagged := (tracked.consented.flagged step present).mpr ⟨inserted, unconfirmed⟩
    exact unpaused visit inside index invocation sent delivered step
      ((pausedStep_iff invocation.clock).mpr ⟨executes, flagged⟩)

/-- Two approvals give two jobs, and the second one runs the flagged step without a confirmation. -/
theorem flagged_step_runs_unconfirmed :
    ¬ ∀ (proposal : Proposal) (external : SandboxStore) (actions : List (JobAction SandboxStore)),
      ∀ visit ∈ visits JobAction.step actions (World.proposed proposal external),
        ∀ index invocation, visit.2 = .deliver index invocation →
          ∀ step, visit.1.delivers index invocation step → proposal.flags step.id →
            visit.1.hasConfirmed step.id := by
  intro always
  obtain ⟨world, visited, reached, paused, queue, requests⟩ : ∃ world : World SandboxStore,
      (world, .deliver 0 (sandboxCall none)) ∈ visits JobAction.step
        [.request sandboxApproval 1, .request sandboxApproval 1, .deliver 0 (sandboxCall none),
          .deliver 0 (sandboxCall none), .deliver 0 (sandboxCall none)]
        (World.proposed triggeredPlan []) ∧
      world.db.nextStep.map (fun step => (step.id, step.kind, step.requiresConfirmation)) =
        some (2, .distribute, true) ∧
      world.db.rotation.status = .awaitingConfirmation ∧
      world.session.queue[0]?.isSome = true ∧
      world.accepted = [sandboxApproval, sandboxApproval] :=
    ⟨_, (mem_visits_iff _).mpr
      ⟨[.request sandboxApproval 1, .request sandboxApproval 1, .deliver 0 (sandboxCall none),
        .deliver 0 (sandboxCall none)], [], rfl, rfl⟩, by decide, by decide, by decide, by decide⟩
  have tracked : Tracked triggeredPlan world := Tracked.visits _ visited
  obtain ⟨step, next, fields⟩ := Option.map_eq_some_iff.mp reached
  obtain ⟨same, kind, flagged⟩ : step.id = 2 ∧ step.kind = .distribute ∧
      step.requiresConfirmation = true := by simpa using fields
  have held : PausedStep world.db step :=
    ⟨paused, next, flagged, fun revoke => absurd (kind.symm.trans revoke) (by simp)⟩
  obtain ⟨executes, _⟩ := (pausedStep_iff (sandboxCall none).clock).mp held
  have runs : world.delivers 0 (sandboxCall none) step :=
    (World.delivers_iff tracked.queued 0 _ step).mpr ⟨Option.isSome_iff_exists.mp queue, executes⟩
  have inserted : triggeredPlan.flags step.id := by
    rw [same]
    exact ⟨_, List.mem_cons_of_mem _ List.mem_cons_self, rfl, rfl⟩
  obtain ⟨claims, accepted⟩ := always triggeredPlan [] _ _ visited 0 _ rfl step runs inserted
  rw [requests] at accepted
  simp only [sandboxApproval, List.mem_cons, List.not_mem_nil, or_false, reduceCtorEq] at accepted

end Sprawl
