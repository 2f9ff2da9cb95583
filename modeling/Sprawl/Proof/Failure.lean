/-
This file proves what a failed step and its rollback do to the created credentials.
-/

import Sprawl.Proof.Ledger

namespace Sprawl

open Effect

variable {κ : Type}

namespace World

/-- This is the outcome of the executor in an engine call. -/
def outcome (world : World κ) (invocation : Invocation κ) (step : RotationStep) : StepResult :=
  (world.session.opened invocation.clock).outcome invocation.connectors step world.db.rotation

/-- The connector calls up to the return of the executor in an engine call. -/
def callsAfter (world : World κ) (invocation : Invocation κ) (step : RotationStep) :
    List ConnectorEvent :=
  world.calls ++ (world.session.opened invocation.clock).outcomeEvents invocation.connectors step
    world.db.rotation

/-- The engine call runs the step, and the step fails. -/
structure Fails (world : World κ) (invocation : Invocation κ) (step : RotationStep) : Prop where
  executes : Executes world.db invocation.clock step
  failed : (world.outcome invocation step).status ≠ .done

end World

/-- The compensation of these steps deletes the credential. -/
structure Clears (keys : ConnectorKeys) (rotation : Rotation) (steps : List RotationStep)
    (credentialId : String) : Prop where
  cloud : keys.cloud = true
  named : ∃ ref, rotation.newSecretRef = some ref ∧ ref.credentialId = credentialId
  provisioned : ∃ step ∈ steps, step.deletesNewKey = true

theorem clears_cons {keys : ConnectorKeys} {rotation : Rotation} {step : RotationStep}
    {rest : List RotationStep} {credentialId : String} :
    Clears keys rotation (step :: rest) credentialId ↔
      Clears keys rotation [step] credentialId ∨ Clears keys rotation rest credentialId := by
  constructor
  · intro given
    obtain ⟨cloud, named, other, inside, deletes⟩ := given
    obtain rfl | inside := List.mem_cons.mp inside
    · exact Or.inl ⟨cloud, named, other, List.mem_singleton_self _, deletes⟩
    · exact Or.inr ⟨cloud, named, other, inside, deletes⟩
  · intro given
    obtain ⟨cloud, named, other, inside, deletes⟩ | ⟨cloud, named, other, inside, deletes⟩ := given
    · exact ⟨cloud, named, other, List.mem_cons.mpr (Or.inl (List.mem_singleton.mp inside)), deletes⟩
    · exact ⟨cloud, named, other, List.mem_cons_of_mem _ inside, deletes⟩

/-- A compensation that succeeds deletes what it clears and nothing else. -/
theorem Compensated.track {keys : ConnectorKeys} {step : RotationStep} {rotation : Rotation}
    {events : List ConnectorEvent} {result : StepResult}
    (outcome : Compensated keys step rotation events result) (done : result.status = .compensated)
    {live : List String} {credentialId : String} :
    credentialId ∈ events.foldl ConnectorEvent.track live ↔
      credentialId ∈ live ∧ ¬ Clears keys rotation [step] credentialId := by
  cases outcome with
  | deleted deletes present ref known =>
      have clears : Clears keys rotation [step] credentialId ↔ ref.credentialId = credentialId := by
        constructor
        · intro given
          obtain ⟨_, ⟨other, same, named⟩, _⟩ := given
          rw [known] at same
          exact (Option.some.inj same) ▸ named
        · exact fun named => ⟨present, ⟨ref, known, named⟩, step, List.mem_singleton_self _, deletes⟩
      rw [clears]
      simp [ConnectorEvent.track, newCredential, @eq_comm _ credentialId]
  | deleteFailed deletes present ref known text => simp [failedWith] at done
  | quiet keeps =>
      have clears : ¬ Clears keys rotation [step] credentialId := by
        intro given
        obtain ⟨cloud, ⟨ref, known, _⟩, other, inside, deletes⟩ := given
        rw [List.mem_singleton.mp inside] at deletes
        simp [cloud, known, deletes] at keeps
      simp [clears]

/-- A rollback without a failure deletes what its steps clear and nothing else. -/
theorem CompensatedAll.track {keys : ConnectorKeys} {rotation : Rotation} {time : Time}
    {steps : List RotationStep} {rows final : Rows} {events : List ConnectorEvent}
    {failures : List String}
    (all : CompensatedAll keys rotation time steps rows events final failures)
    (none : failures = []) {live : List String} {credentialId : String} :
    credentialId ∈ events.foldl ConnectorEvent.track live ↔
      credentialId ∈ live ∧ ¬ Clears keys rotation steps credentialId := by
  induction all generalizing live with
  | nil =>
      have clears : ¬ Clears keys rotation [] credentialId :=
        fun holds => holds.provisioned.elim fun _ both => absurd both.1 List.not_mem_nil
      simp [clears]
  | @cons step rest rows final events later result failures first others ih =>
      split at none
      · rename_i done
        rw [List.foldl_append, ih none, first.track done, @clears_cons keys rotation step rest,
          not_or, and_assoc]
      · exact absurd none (by simp)

theorem mem_stepsToCompensate {rows : Rows} {step : RotationStep} :
    step ∈ stepsToCompensate rows.ordered ↔ step ∈ rows.steps ∧ step.status = .done := by
  simp [stepsToCompensate]

/-- Only one step can fail in one call. -/
theorem World.Fails.unique {world : World κ} {invocation : Invocation κ}
    {first second : RotationStep} (fails : world.Fails invocation first)
    (others : world.Fails invocation second) : first = second :=
  Option.some.inj (fails.executes.next.symm.trans others.executes.next)

/-- A call whose step fails ends with a rollback. -/
theorem World.Fails.ends {world : World κ} {invocation : Invocation κ} {step : RotationStep}
    (fails : world.Fails invocation step) {final : Session Rows κ}
    (ends : EngineEnd invocation.connectors invocation.actor
      (world.session.opened invocation.clock) final) :
    ∃ later rows, RolledBack invocation.connectors invocation.actor
        (world.db.started invocation.actor step invocation.clock) world.db.rotation
        world.db.ordered step (world.outcome invocation step).error invocation.clock later rows ∧
      Reaches (world.session.opened invocation.clock) rows
        ((world.session.opened invocation.clock).outcomeEvents invocation.connectors step
          world.db.rotation ++ later) final := by
  cases ends with
  | idle idles ends => exact absurd idles fails.executes.not_idles
  | settled after settles ends => exact absurd settles fails.executes.not_settles
  | ran other executes ends =>
      obtain rfl : step = other := Option.some.inj (fails.executes.next.symm.trans executes.next)
      cases ends with
      | finished done ends => exact absurd done fails.failed
      | rolledBack failed later rows undone ends => exact ⟨later, rows, undone, ends⟩

/-- The calls of a failed step are among the calls at the end of its engine call. -/
theorem World.Fails.calls_extended {world : World κ} {invocation : Invocation κ}
    {step : RotationStep} (fails : world.Fails invocation step) :
    world.callsAfter invocation step <+: (world.advance invocation).calls := by
  obtain ⟨final, ends, same⟩ := world.advance_end invocation
  obtain ⟨later, rows, undone, reaches⟩ := fails.ends ends
  rw [same]
  exact ⟨later, (List.append_assoc _ _ _).trans reaches.calls.symm⟩

/-- A terminal rotation does not move any more. -/
theorem World.step_of_terminal {world : World κ}
    (ended : world.db.rotation.status.isTerminal = true) (action : Action κ) :
    (action.step world).db = world.db ∧ (action.step world).calls = world.calls := by
  cases action with
  | request request clock =>
      obtain ⟨reply, final, handled, same⟩ := world.handle_end request clock
      rw [Action.step, same]
      cases handled with
      | refused error => exact ⟨rfl, rfl⟩
      | approved claims role sent waiting body =>
          have status : world.db.rotation.status = .pendingApproval := waiting
          rw [status] at ended
          exact absurd ended (by decide)
      | rejected claims role sent waiting body =>
          have status : world.db.rotation.status = .pendingApproval ∨
            world.db.rotation.status = .awaitingConfirmation := waiting
          rcases status with status | status <;> rw [status] at ended <;>
            exact absurd ended (by decide)
      | confirmed claims role step sent waiting inside pending body =>
          have status : world.db.rotation.status = .awaitingConfirmation := waiting
          rw [status] at ended
          exact absurd ended (by decide)
  | advance invocation =>
      obtain ⟨final, ends, same⟩ := world.advance_end invocation
      rw [Action.step, same]
      have stopped (active : world.db.rotation.status.isTerminal = false) : False := by
        rw [ended] at active
        exact absurd active (by simp)
      cases ends with
      | idle idles ends => exact ⟨ends.db, ends.calls.trans (List.append_nil _)⟩
      | settled after settles ends => exact (stopped settles.active).elim
      | ran step executes ends => exact (stopped executes.live.active).elim

/-- A terminal rotation stays as it is, and no step runs. -/
theorem World.run_of_terminal {world : World κ}
    (ended : world.db.rotation.status.isTerminal = true) (actions : List (Action κ)) :
    (runActions Action.step actions world).db = world.db ∧
      (runActions Action.step actions world).calls = world.calls ∧
      ∀ visit ∈ visits Action.step actions world, ∀ time step, ¬ Executes visit.1.db time step := by
  induction actions generalizing world with
  | nil => exact ⟨rfl, rfl, by simp⟩
  | cons action rest ih =>
      obtain ⟨rows, calls⟩ := World.step_of_terminal ended action
      obtain ⟨lastRows, lastCalls, none⟩ := ih (rows.symm ▸ ended)
      refine ⟨lastRows.trans rows, lastCalls.trans calls, ?_⟩
      rw [visits_cons, List.forall_mem_cons]
      refine ⟨fun time step executes => ?_, none⟩
      rw [executes.live.active] at ended
      exact absurd ended (by simp)

end Sprawl
