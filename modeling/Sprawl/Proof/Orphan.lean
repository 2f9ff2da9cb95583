/-
This file proves when a rollback leaves no created credential behind.
-/

import Sprawl.Proof.Failure
import Sprawl.Proof.StepOrder
import Sprawl.Rotation.Sandbox

namespace Sprawl

open Effect

variable {κ : Type}

/-- Each credential that is outstanding when the rollback starts is the one that the rotation row
names, and a done provision step compensates it. -/
def World.Compensable (world : World κ) (invocation : Invocation κ) (step : RotationStep) : Prop :=
  ∀ credentialId ∈ outstanding (world.callsAfter invocation step),
    invocation.connectors.cloud = true ∧
      (∃ ref, world.db.rotation.newSecretRef = some ref ∧ ref.credentialId = credentialId) ∧
        ∃ done ∈ world.db.steps, done.status = .done ∧ done.deletesNewKey = true

theorem rollbackStatus_eq_rolledBack {failures : List String} :
    rollbackStatus failures = .rolledBack ↔ failures = [] := by
  cases failures <;> simp [rollbackStatus]

/-- A failed step that ends rolled back leaves what its compensations do not clear. -/
theorem World.Fails.clean_iff {world : World κ} {invocation : Invocation κ} {step : RotationStep}
    (fails : world.Fails invocation step)
    (ended : (world.advance invocation).db.rotation.status = .rolledBack) :
    outstanding (world.advance invocation).calls = [] ↔ world.Compensable invocation step := by
  obtain ⟨final, ends, same⟩ := world.advance_end invocation
  obtain ⟨later, rows, undone, reaches⟩ := fails.ends ends
  obtain ⟨compensated, failures, all, rfl⟩ := undone.passes
  have status : rollbackStatus failures = .rolledBack := by
    rw [same] at ended
    have shown : final.db.rotation.status = .rolledBack := ended
    rwa [reaches.db] at shown
  have calls : (world.advance invocation).calls = world.callsAfter invocation step ++ later := by
    rw [same]
    exact reaches.calls.trans (List.append_assoc _ _ _).symm
  rw [calls, List.eq_nil_iff_forall_not_mem]
  apply forall_congr'
  intro credentialId
  rw [outstanding_append, all.track (rollbackStatus_eq_rolledBack.mp status), not_and, not_not]
  apply forall_congr'
  intro _
  constructor
  · intro given
    obtain ⟨cloud, named, done, inside, deletes⟩ := given
    obtain ⟨present, finished⟩ := mem_stepsToCompensate.mp inside
    exact ⟨cloud, named, done, present, finished, deletes⟩
  · intro given
    obtain ⟨cloud, named, done, present, finished, deletes⟩ := given
    exact ⟨cloud, named, done, mem_stepsToCompensate.mpr ⟨present, finished⟩, deletes⟩

/-- A call without a failed step does not move the rotation to `rolled_back`. -/
theorem World.status_of_not_fails {world : World κ} {action : Action κ}
    (before : world.db.rotation.status ≠ .rolledBack)
    (sound : ∀ invocation, action = .advance invocation → ∀ step, ¬ world.Fails invocation step) :
    (action.step world).db.rotation.status ≠ .rolledBack := by
  cases action with
  | request request clock =>
      obtain ⟨reply, final, handled, same⟩ := world.handle_end request clock
      rw [Action.step, same]
      cases handled with
      | refused error => exact before
      | approved claims role sent waiting body => exact before
      | rejected claims role sent waiting body =>
          intro rolled
          have shown : RotationStatus.rejected = .rolledBack := rolled
          exact absurd shown (by decide)
      | confirmed claims role step sent waiting inside pending body => exact before
  | advance invocation =>
      obtain ⟨final, ends, same⟩ := world.advance_end invocation
      rw [Action.step, same]
      change final.db.rotation.status ≠ .rolledBack
      cases ends with
      | idle idles ends =>
          rw [ends.db]
          exact before
      | settled after settles ends =>
          rw [ends.db]
          cases settles <;> simp [Rows.completed]
      | ran step executes ends =>
          cases ends with
          | finished done ends =>
              rw [ends.db, Rows.afterFinish_status, Rows.started_status]
              split
              · simp
              · cases step.kind <;> simp [StepKind.toStatus]
          | rolledBack failed later rows undone ends =>
              exact absurd ⟨executes, failed⟩ (sound invocation rfl step)

/-- A rollback that ends `rolled_back` leaves no outstanding credential exactly when each of them
was compensable at its start. -/
theorem rolled_back_clean_iff_of (world : World κ) (actions : List (Action κ))
    (before : world.db.rotation.status ≠ .rolledBack)
    (ended : (runActions Action.step actions world).db.rotation.status = .rolledBack) :
    outstanding (runActions Action.step actions world).calls = [] ↔
      ∀ visit ∈ visits Action.step actions world, ∀ invocation, visit.2 = .advance invocation →
        ∀ step, visit.1.Fails invocation step → visit.1.Compensable invocation step := by
  induction actions generalizing world with
  | nil => exact absurd ended before
  | cons action rest ih =>
      rw [visits_cons, List.forall_mem_cons, runActions_cons]
      rw [runActions_cons] at ended
      by_cases sound : ∀ invocation, action = .advance invocation →
          ∀ step, ¬ world.Fails invocation step
      · rw [ih _ (World.status_of_not_fails before sound) ended]
        constructor
        · intro later
          exact ⟨fun invocation sent step fails => absurd fails (sound invocation sent step), later⟩
        · exact fun both => both.2
      · simp only [not_forall, not_not] at sound
        obtain ⟨invocation, rfl, step, fails⟩ := sound
        obtain ⟨final, ends, same⟩ := world.advance_end invocation
        obtain ⟨later, rows, undone, reaches⟩ := fails.ends ends
        have terminal : (world.advance invocation).db.rotation.status.isTerminal = true := by
          rw [same]
          exact (congrArg (·.rotation.status.isTerminal) reaches.db).trans undone.status.1
        obtain ⟨lastRows, lastCalls, none⟩ := World.run_of_terminal terminal rest
        have rolled : (world.advance invocation).db.rotation.status = .rolledBack := by
          rw [← lastRows]
          exact ended
        rw [Action.step, lastCalls, fails.clean_iff rolled]
        constructor
        · intro compensable
          refine ⟨fun other sent another others => ?_, fun visit inside _ _ _ later => ?_⟩
          · obtain rfl : invocation = other := by injection sent
            obtain rfl : step = another := fails.unique others
            exact compensable
          · exact absurd later.executes (none visit inside _ _)
        · exact fun both => both.1 invocation rfl step fails

/-- A run that ends `rolled_back` has deleted every created credential exactly when each of them
was compensable at the start of its rollback. -/
theorem rolled_back_clean_iff (proposal : Proposal) (external : κ) (actions : List (Action κ)) :
    let world := runActions Action.step actions (World.proposed proposal external)
    world.db.rotation.status = .rolledBack →
      ((∀ before event after, world.calls = before ++ event :: after →
        ∀ material, event.material = some material →
          ∃ later ∈ after, later.deletes material.credentialId = true) ↔
      ∀ visit ∈ visits Action.step actions (World.proposed proposal external),
        ∀ invocation, visit.2 = .advance invocation →
          ∀ step, visit.1.Fails invocation step → visit.1.Compensable invocation step) := by
  intro world ended
  rw [← outstanding_eq_nil_iff]
  exact rolled_back_clean_iff_of _ actions (by simp [World.proposed, Proposal.rows, Proposal.rotation])
    ended

/-- A failed verify step rolls the demo rotation back, and its only credential is compensable. -/
theorem sandbox_rollback_compensable :
    let actions := List.replicate 4 (.advance (sandboxCall (some "verify")))
    (runActions Action.step actions (World.proposed triggeredPlan [])).db.rotation.status =
        .rolledBack ∧
      ∀ visit ∈ visits Action.step actions (World.proposed triggeredPlan []),
        ∀ invocation, visit.2 = .advance invocation →
          ∀ step, visit.1.Fails invocation step → visit.1.Compensable invocation step :=
  ⟨by decide, (rolled_back_clean_iff triggeredPlan []
    (List.replicate 4 (.advance (sandboxCall (some "verify")))) (by decide)).mp
      (outstanding_eq_nil_iff.mp (by decide))⟩

/-- A failed store write inside the provision step leaves the created credential behind. -/
theorem rollback_leaves_credential :
    ¬ ∀ (proposal : Proposal) (external : SandboxStore) (actions : List (Action SandboxStore)),
      let world := runActions Action.step actions (World.proposed proposal external)
      world.db.rotation.status = .rolledBack →
        ∀ before event after, world.calls = before ++ event :: after →
          ∀ material, event.material = some material →
            ∃ later ∈ after, later.deletes material.credentialId = true := by
  intro always
  have deleted := always triggeredPlan [] [.advance (sandboxCall (some "distribute"))] (by decide)
  have clean := outstanding_eq_nil_iff.mpr deleted
  exact absurd clean (by decide)

end Sprawl
