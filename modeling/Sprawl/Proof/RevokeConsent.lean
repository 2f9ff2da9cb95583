/-
This file proves when a revoke step runs only after its own confirmation.
-/

import Sprawl.Proof.Consent
import Sprawl.Rotation.Sandbox

namespace Sprawl

open Effect

variable {κ : Type}

/-- The engine call runs the executor of the step. -/
def World.executes (world : World κ) (invocation : Invocation κ) (step : RotationStep) : Prop :=
  ∃ moment ∈ world.moments (world.engineCall invocation) invocation,
    ∃ rotation, moment.issued = .executeStep step rotation

/-- The engine runs a step exactly when the rows let it. -/
theorem World.executes_iff (world : World κ) (invocation : Invocation κ) (step : RotationStep) :
    world.executes invocation step ↔ Executes world.db invocation.clock step := by
  constructor
  · intro given
    obtain ⟨moment, inside, rotation, issued⟩ := given
    exact ((world.advance_moment invocation moment inside).execution issued).1
  · intro executes
    obtain ⟨moment, inside, issued⟩ := world.advance_executes invocation executes
    exact ⟨moment, inside, _, issued⟩

/-- The next step is an unconfirmed revoke step behind passed verify steps, and no pause holds it:
it carries no flag, or the rotation already waits for some confirmation. -/
structure LooseRevoke (rows : Rows) (time : Time) (step : RotationStep) : Prop where
  live : Live rows time
  next : rows.nextStep = some step
  revoke : step.kind = .revoke
  verified : ∀ other ∈ rows.steps, other.kind = .verify → other.status = .done
  unconfirmed : step.confirmedAt = none
  unheld : step.requiresConfirmation = false ∨ rows.rotation.status = .awaitingConfirmation

/-- A loose revoke step is one that the engine runs without its confirmation. -/
theorem looseRevoke_iff {rows : Rows} {time : Time} {step : RotationStep} :
    LooseRevoke rows time step ↔
      Executes rows time step ∧ step.kind = .revoke ∧ step.confirmedAt = none := by
  constructor
  · intro loose
    refine ⟨⟨loose.live, loose.next, ?_, fun _ =>
      (Rows.answer_incompleteVerify_eq_zero rows).mpr loose.verified⟩, loose.revoke,
      loose.unconfirmed⟩
    intro flagged
    exact loose.unheld.resolve_left (by simp [flagged])
  · intro given
    obtain ⟨executes, revoke, unconfirmed⟩ := given
    refine ⟨executes.live, executes.next, revoke,
      (Rows.answer_incompleteVerify_eq_zero rows).mp (executes.verified revoke), unconfirmed, ?_⟩
    cases flagged : step.requiresConfirmation with
    | false => exact Or.inl rfl
    | true => exact Or.inr (executes.passed flagged)

theorem Consented.visits {proposal : Proposal} {external : κ} {actions : List (Action κ)} :
    ∀ visit ∈ visits Action.step actions (World.proposed proposal external),
      Consented proposal visit.1 :=
  invariant_visits_always (Consented proposal) (fun _ action holds => holds.action action)
    (Consented.proposed proposal external)

/-- A revoke step runs only after its own confirmation exactly in the runs without a loose one. -/
theorem revoke_confirmed_iff (proposal : Proposal) (external : κ) (actions : List (Action κ)) :
    (∀ visit ∈ visits Action.step actions (World.proposed proposal external),
      ∀ invocation, visit.2 = .advance invocation →
        ∀ step, visit.1.executes invocation step → step.kind = .revoke →
          step.confirmedAt.isSome = true ∧ visit.1.hasConfirmed step.id) ↔
    ∀ visit ∈ visits Action.step actions (World.proposed proposal external),
      ∀ invocation, visit.2 = .advance invocation →
        ∀ step, ¬ LooseRevoke visit.1.db invocation.clock step := by
  constructor
  · intro confirmed visit inside invocation sent step loose
    obtain ⟨executes, revoke, unconfirmed⟩ := looseRevoke_iff.mp loose
    have set := confirmed visit inside invocation sent step
      ((visit.1.executes_iff invocation step).mpr executes) revoke
    simp [unconfirmed] at set
  · intro held visit inside invocation sent step runs revoke
    have executes := (visit.1.executes_iff invocation step).mp runs
    have set : step.confirmedAt.isSome = true := by
      cases time : step.confirmedAt with
      | some time => rfl
      | none =>
          exact absurd (looseRevoke_iff.mpr ⟨executes, revoke, time⟩)
            (held visit inside invocation sent step)
    have present := (Rows.nextStep_eq_some executes.next).1
    exact ⟨set, ((Consented.visits visit inside).confirmed step present).mp set⟩

/-- The calls of an unflagged plan revoke the old credential without any confirmation. -/
theorem revoke_runs_unconfirmed :
    ¬ ∀ (proposal : Proposal) (external : SandboxStore) (actions : List (Action SandboxStore)),
      (∃ unknown, proposal.coverage.unknownConsumers = some unknown ∧ 0 < unknown) →
      ∀ visit ∈ visits Action.step actions (World.proposed proposal external),
        ∀ invocation, visit.2 = .advance invocation →
          ∀ step, visit.1.executes invocation step → step.kind = .revoke →
            step.confirmedAt.isSome = true ∧ visit.1.hasConfirmed step.id := by
  intro always
  let proposal := sandboxProposal false false none
    { knownConsumers := some 1, unknownConsumers := some 1 }
  let call : Action SandboxStore := .advance (sandboxCall none)
  let world := runActions Action.step [call, call, call] (World.proposed proposal [])
  have reached : world.db.nextStep.map (fun step => (step.kind, step.confirmedAt)) =
      some (.revoke, none) := by decide
  obtain ⟨step, next, fields⟩ := Option.map_eq_some_iff.mp reached
  obtain ⟨revoke, unconfirmed⟩ := Prod.mk.inj fields
  have unflagged : (world.db.nextStep.map (·.requiresConfirmation)) = some false := by decide
  rw [next] at unflagged
  have executes : Executes world.db 1 step := by
    refine ⟨⟨by decide, by decide⟩, next, fun flagged => ?_, fun _ => by decide⟩
    exact absurd (Option.some.inj unflagged) (by simp [flagged])
  have visited : (world, call) ∈ visits Action.step [call, call, call, call]
      (World.proposed proposal []) :=
    (mem_visits_iff _).mpr ⟨[call, call, call], [], rfl, rfl⟩
  have set := always proposal [] [call, call, call, call] ⟨1, rfl, by decide⟩ _ visited
    (sandboxCall none) rfl step ((world.executes_iff _ step).mpr executes) revoke
  simp [unconfirmed] at set

end Sprawl
