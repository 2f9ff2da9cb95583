/-
This file proves when a rotation with a failed step stays stopped after crashes.
-/

import Sprawl.Proof.StoredSecret

namespace Sprawl

open Effect

variable {κ : Type}

/-- Some step has failed. -/
def HasFailed (rows : Rows) : Prop := ∃ step ∈ rows.steps, step.status = .failed

instance (rows : Rows) : Decidable (HasFailed rows) :=
  inferInstanceAs (Decidable (∃ step ∈ rows.steps, step.status = .failed))

/-- A failed step stands next to a pending step while the rotation is live. -/
structure Resumable (rows : Rows) : Prop where
  active : rows.rotation.status.isTerminal = false
  failed : HasFailed rows
  pending : ∃ step ∈ rows.steps, step.status = .pending

/-- A call that runs a step of a rotation that is not resumable meets no failed step. -/
theorem Executes.not_failed {rows : Rows} {time : Time} {step : RotationStep}
    (executes : Executes rows time step) (stopped : ¬ Resumable rows) : ¬ HasFailed rows := by
  obtain ⟨inside, pending, _⟩ := Rows.nextStep_eq_some executes.next
  exact fun failed => stopped ⟨executes.live.active, failed, step, inside, pending⟩

/-- A finished step fails nothing. -/
theorem not_failed_finished {rows after : Rows} {step : RotationStep} {time : Time}
    (steps : after.steps = updateSteps (fun other => other.id = step.id)
      { status := some .done, executedAt := some time } rows.steps)
    (none : ¬ HasFailed rows) : ¬ HasFailed after := by
  intro given
  obtain ⟨other, inside, failed⟩ := given
  obtain ⟨old, within, _, status⟩ := finished_from steps inside
  rw [failed] at status
  split at status
  · exact absurd status (by simp)
  · exact none ⟨old, within, status.symm⟩

section Progress

variable {before after : Rows} (progress : Keeps RotationStep.progress before after)

include progress

theorem Keeps.exists_status (status : StepStatus) :
    (∃ step ∈ after.steps, step.status = status) ↔ ∃ step ∈ before.steps, step.status = status := by
  constructor
  · intro given
    obtain ⟨step, inside, same⟩ := given
    obtain ⟨old, within, equal⟩ := progress.exists_before inside
    have statuses : old.status = step.status := congrArg Prod.snd equal
    exact ⟨old, within, statuses.trans same⟩
  · intro given
    obtain ⟨step, inside, same⟩ := given
    obtain ⟨later, within, equal⟩ := progress.exists_after inside
    have statuses : later.status = step.status := congrArg Prod.snd equal
    exact ⟨later, within, statuses.trans same⟩

theorem Keeps.hasFailed : HasFailed after ↔ HasFailed before := progress.exists_status .failed

theorem Keeps.not_resumable (stopped : ¬ Resumable before)
    (active : after.rotation.status.isTerminal = false →
      before.rotation.status.isTerminal = false) : ¬ Resumable after :=
  fun resumable => stopped ⟨active resumable.active, progress.hasFailed.mp resumable.failed,
    (progress.exists_status .pending).mp resumable.pending⟩

end Progress

/-- A rotation is sound when no crash has left a failed step next to a pending one, and it has
completed only without a failed step. -/
structure Sound (rows : Rows) : Prop where
  stopped : ¬ Resumable rows
  completed : rows.rotation.status = .completed → ¬ HasFailed rows

/-- Rows that have stopped have a failed step and will not complete. -/
structure Stopped (rows : Rows) : Prop where
  failed : HasFailed rows
  stopped : ¬ Resumable rows
  unfinished : rows.rotation.status ≠ .completed

/-- A settled rotation completes only when every step is done. -/
theorem Settles.not_failed {rows after : Rows} {actor : String} {time : Time}
    (settles : Settles rows actor time after) (completed : after.rotation.status = .completed) :
    ¬ HasFailed rows := by
  cases settles with
  | completed live some finished =>
      intro given
      obtain ⟨step, inside, failed⟩ := given
      exact absurd (failed.symm.trans (finished step inside)) (by simp)
  | expired active late => exact absurd completed (by simp)
  | paused live step next flagged unpaused => exact absurd completed (by simp)
  | blocked live step next passed revoke incomplete => exact absurd completed (by simp)

theorem Settles.sound {rows after : Rows} {actor : String} {time : Time}
    (settles : Settles rows actor time after) (sound : Sound rows) : Sound after where
  stopped := settles.keeps.not_resumable sound.stopped fun _ => settles.active
  completed completed failed := settles.not_failed completed (settles.keeps.hasFailed.mp failed)

theorem Settles.stopped {rows after : Rows} {actor : String} {time : Time}
    (settles : Settles rows actor time after) (stopped : Stopped rows) : Stopped after where
  failed := settles.keeps.hasFailed.mpr stopped.failed
  stopped := settles.keeps.not_resumable stopped.stopped fun _ => settles.active
  unfinished completed := settles.not_failed completed stopped.failed

/-- A running step never completes a rotation with a failed step. -/
theorem StepMoment.completed {connectors : Connectors κ} {actor : String}
    {session : Session Rows κ} {step : RotationStep}
    {moment : Moment Command Command.Reply (Session Rows κ)}
    (executes : Executes session.db session.clock step) (stopped : ¬ Resumable session.db)
    (inside : StepMoment connectors actor session step moment)
    (completed : moment.state.db.rotation.status = .completed) : ¬ HasFailed moment.state.db := by
  have none := executes.not_failed stopped
  have started : ¬ HasFailed (session.db.started actor step session.clock) := by
    rwa [HasFailed, Rows.started_steps]
  cases inside with
  | starting internal unrecorded calls rows =>
      rcases rows with same | same <;> rw [same]
      · exact none
      · exact started
  | executing issued calls rows =>
      rw [rows]
      exact started
  | finishing done internal records calls rows =>
      rcases rows with (same | same) | same <;> rw [same]
      · exact started
      · exact not_failed_finished (Rows.finished_steps _ _ _ _ _) started
      · exact not_failed_finished (Rows.afterFinish_steps _ _ _ _ _ _) started
  | failing failed execution unrecorded status =>
      rw [completed] at status
      cases kind : step.kind <;> simp [RollbackStatus, kind, StepKind.toStatus] at status

section Call

variable {connectors : Connectors κ} {actor : String} {session final : Session Rows κ}
  {moment : Moment Command Command.Reply (Session Rows κ)}

/-- An engine call keeps a rotation sound. -/
theorem EngineEnd.sound (ends : EngineEnd connectors actor session final)
    (sound : Sound session.db) : Sound final.db := by
  cases ends with
  | idle idles ends => exact ends.db ▸ sound
  | settled after settles ends => exact ends.db ▸ settles.sound sound
  | ran step executes ends =>
      cases ends with
      | finished done ends =>
          have started : ¬ HasFailed (session.db.started actor step session.clock) := by
            rw [HasFailed, Rows.started_steps]
            exact executes.not_failed sound.stopped
          have none : ¬ HasFailed final.db := by
            rw [ends.db]
            exact not_failed_finished (Rows.afterFinish_steps _ _ _ _ _ _) started
          exact ⟨fun resumable => none resumable.failed, fun _ => none⟩
      | rolledBack failed later rows undone ends =>
          obtain ⟨terminal, unfinished⟩ := undone.status
          rw [ends.db]
          refine ⟨fun resumable => ?_, fun completed => absurd completed unfinished⟩
          exact absurd (terminal.symm.trans resumable.active) (by simp)

/-- No moment of an engine call shows a completed rotation with a failed step. -/
theorem EngineMoment.completed (inside : EngineMoment connectors actor session moment)
    (sound : Sound session.db) (completed : moment.state.db.rotation.status = .completed) :
    ¬ HasFailed moment.state.db := by
  cases inside with
  | reading internal unrecorded state =>
      rw [state] at completed ⊢
      exact sound.completed completed
  | settling after settles internal unrecorded calls rows =>
      rcases rows with same | same <;> rw [same] at completed ⊢
      · exact sound.completed completed
      · exact (settles.sound sound).completed completed
  | running step executes within => exact within.completed executes sound.stopped completed

/-- A stopped rotation runs no step. -/
theorem Stopped.not_executes {rows : Rows} (stopped : Stopped rows) (time : Time)
    (step : RotationStep) : ¬ Executes rows time step :=
  fun executes => executes.not_failed stopped.stopped stopped.failed

theorem EngineEnd.stopped (ends : EngineEnd connectors actor session final)
    (stopped : Stopped session.db) : Stopped final.db := by
  cases ends with
  | idle idles ends => exact ends.db ▸ stopped
  | settled after settles ends => exact ends.db ▸ settles.stopped stopped
  | ran step executes ends => exact absurd executes (stopped.not_executes _ step)

theorem EngineMoment.stopped (inside : EngineMoment connectors actor session moment)
    (stopped : Stopped session.db) : Stopped moment.state.db := by
  cases inside with
  | reading internal unrecorded state => exact state ▸ stopped
  | settling after settles internal unrecorded calls rows =>
      rcases rows with same | same
      · exact same ▸ stopped
      · exact same ▸ settles.stopped stopped
  | running step executes within => exact absurd executes (stopped.not_executes _ step)

end Call

namespace World

variable {world : World κ}

/-- A crash leaves the rows of the end or of a moment of its engine call. -/
theorem crash_cases (world : World κ) (count : Nat) (invocation : Invocation κ) :
    (∃ final, EngineEnd invocation.connectors invocation.actor
      (world.session.opened invocation.clock) final ∧
        (world.crash count invocation).db = final.db) ∨
      ∃ moment, EngineMoment invocation.connectors invocation.actor
        (world.session.opened invocation.clock) moment ∧
          (world.crash count invocation).db = moment.state.db := by
  have ensures := advanceRotation_ensures invocation.connectors invocation.actor
    (world.session.opened_pending invocation.clock)
  obtain same | ⟨moment, inside, same⟩ := Program.stateAfter_mem
    (Session.answer invocation.connectors) count (world.engineCall invocation)
    (world.session.opened invocation.clock)
  · exact Or.inl ⟨_, ensures.final, (congrArg Session.db same :)⟩
  · exact Or.inr ⟨moment, ensures.moments moment inside, (congrArg Session.db same :)⟩

/-- A request keeps the statuses of the steps and never completes a rotation. -/
theorem handle_progress (world : World κ) (request : Request) (clock : Time) :
    Keeps RotationStep.progress world.db (world.handle request clock).db ∧
      ((world.handle request clock).db.rotation.status.isTerminal = false →
        world.db.rotation.status.isTerminal = false) ∧
      ((world.handle request clock).db.rotation.status = .completed →
        world.db.rotation.status = .completed) := by
  obtain ⟨reply, final, handled, same⟩ := world.handle_end request clock
  rw [same]
  refine ⟨handled.keeps progress_confirmless, handled.active, fun completed => ?_⟩
  cases handled with
  | rejected claims role sent waiting body =>
      have ended : RotationStatus.rejected = .completed := completed
      exact absurd ended (by decide)
  | _ => exact completed

/-- An action keeps a rotation sound when it does not crash between a failed and a pending step. -/
theorem sound_step (sound : Sound world.db) (action : CrashAction κ)
    (uncut : ∀ count invocation, action = .crash count invocation →
      ¬ Resumable (world.crash count invocation).db) : Sound (action.step world).db := by
  cases action with
  | request request clock =>
      obtain ⟨progress, active, completed⟩ := world.handle_progress request clock
      exact ⟨progress.not_resumable sound.stopped active, fun ended failed =>
        sound.completed (completed ended) (progress.hasFailed.mp failed)⟩
  | advance invocation =>
      obtain ⟨final, ends, same⟩ := world.advance_end invocation
      have kept := ends.sound sound
      rw [CrashAction.step, same]
      exact kept
  | crash count invocation =>
      refine ⟨uncut count invocation rfl, fun completed => ?_⟩
      change (world.crash count invocation).db.rotation.status = .completed at completed
      change ¬ HasFailed (world.crash count invocation).db
      obtain ⟨final, ends, same⟩ | ⟨moment, inside, same⟩ := world.crash_cases count invocation
      · rw [same] at completed ⊢
        exact (ends.sound sound).completed completed
      · rw [same] at completed ⊢
        exact inside.completed sound completed

/-- Every action keeps a stopped rotation stopped. -/
theorem stopped_step (stopped : Stopped world.db) (action : CrashAction κ) :
    Stopped (action.step world).db := by
  cases action with
  | request request clock =>
      obtain ⟨progress, active, completed⟩ := world.handle_progress request clock
      exact ⟨progress.hasFailed.mpr stopped.failed, progress.not_resumable stopped.stopped active,
        fun ended => stopped.unfinished (completed ended)⟩
  | advance invocation =>
      obtain ⟨final, ends, same⟩ := world.advance_end invocation
      have kept := ends.stopped stopped
      rw [CrashAction.step, same]
      exact kept
  | crash count invocation =>
      change Stopped (world.crash count invocation).db
      obtain ⟨final, ends, same⟩ | ⟨moment, inside, same⟩ := world.crash_cases count invocation
      · exact same ▸ ends.stopped stopped
      · exact same ▸ inside.stopped stopped

/-- A stopped rotation executes nothing in any action. -/
theorem stopped_moments (stopped : Stopped world.db) (action : CrashAction κ) :
    ∀ moment ∈ action.moments world, ∀ step rotation,
      moment.issued ≠ .executeStep step rotation := by
  intro moment inside step rotation issued
  cases action with
  | request request clock => exact absurd inside List.not_mem_nil
  | advance invocation =>
      obtain ⟨executes, _⟩ := (world.advance_moment invocation moment inside).execution issued
      exact stopped.not_executes _ step executes
  | crash count invocation =>
      have whole := List.mem_of_mem_take inside
      obtain ⟨executes, _⟩ := (world.advance_moment invocation moment whole).execution issued
      exact stopped.not_executes _ step executes

end World

/-- When no crash leaves a failed step next to a pending one in a live rotation, a rotation with a
failed step executes nothing any more and does not complete. -/
theorem failed_rotation_stops (proposal : Proposal) (external : κ)
    (actions : List (CrashAction κ))
    (uncut : ∀ visit ∈ visits CrashAction.step actions (World.proposed proposal external),
      ∀ count invocation, visit.2 = .crash count invocation →
        ¬ Resumable (visit.1.crash count invocation).db) :
    ∀ before after, actions = before ++ after →
      let world := runActions CrashAction.step before (World.proposed proposal external)
      HasFailed world.db →
        (∀ visit ∈ visits CrashAction.step after world, ∀ moment ∈ visit.2.moments visit.1,
          ∀ step rotation, moment.issued ≠ .executeStep step rotation) ∧
        (runActions CrashAction.step after world).db.rotation.status ≠ .completed := by
  intro before after same world failed
  subst same
  have start : Sound (World.proposed proposal external).db := by
    refine ⟨?_, fun completed => absurd completed (by simp [World.proposed, Proposal.rows,
      Proposal.rotation])⟩
    intro given
    obtain ⟨_, ⟨step, inside, status⟩, _⟩ := given
    obtain ⟨spec, _, rfl⟩ := List.mem_map.mp inside
    have pending : StepStatus.pending = .failed := status
    exact absurd pending (by decide)
  have sound : Sound world.db := by
    refine invariant_runActions (fun world : World κ => Sound world.db)
      (fun world action sound uncut => World.sound_step sound action uncut) start ?_
    intro visit inside
    rw [visits_append] at uncut
    exact uncut visit (List.mem_append_left _ inside)
  have stopped : Stopped world.db :=
    ⟨failed, sound.stopped, fun completed => sound.completed completed failed⟩
  have preserved (world : World κ) (action : CrashAction κ) (stopped : Stopped world.db) :=
    World.stopped_step stopped action
  constructor
  · intro visit inside
    exact World.stopped_moments
      (invariant_visits_always (fun world : World κ => Stopped world.db) preserved stopped visit
        inside) visit.2
  · exact (invariant_always (fun world : World κ => Stopped world.db) preserved stopped).unfinished

/-- A crash in the middle of a provision step, later a failed verify step and one more call. -/
def sandboxCrash : List (CrashAction SandboxStore) :=
  .crash 7 (sandboxCall none) :: List.replicate 4 (.advance (sandboxCall (some "verify")))

theorem sandboxCrash_uncut :
    ∀ visit ∈ visits CrashAction.step sandboxCrash (World.proposed namedPlan []),
      ∀ count invocation, visit.2 = .crash count invocation →
        ¬ Resumable (visit.1.crash count invocation).db := by
  simp only [sandboxCrash, List.replicate, visits_cons, visits_nil, List.forall_mem_cons,
    reduceCtorEq, false_implies, implies_true, CrashAction.crash.injEq, List.not_mem_nil, and_true]
  intro count invocation given resumable
  obtain ⟨rfl, rfl⟩ := given
  exact absurd resumable.failed (by decide)

/-- The demo rotation stays stopped after its failed verify step. -/
theorem sandbox_failed_rotation_stops :
    let world := runActions CrashAction.step (sandboxCrash.take 4) (World.proposed namedPlan [])
    (∀ visit ∈ visits CrashAction.step (sandboxCrash.drop 4) world,
      ∀ moment ∈ visit.2.moments visit.1,
        ∀ step rotation, moment.issued ≠ .executeStep step rotation) ∧
      (runActions CrashAction.step (sandboxCrash.drop 4) world).db.rotation.status ≠ .completed :=
  failed_rotation_stops namedPlan [] sandboxCrash sandboxCrash_uncut _ _
    (List.take_append_drop 4 sandboxCrash).symm (by decide)

/-- A worker that crashes between the first and the last commit of a rollback goes on with the
verify and revoke steps, and the rotation completes. -/
theorem crashed_rollback_completes :
    ¬ ∀ (proposal : Proposal) (external : SandboxStore)
        (actions : List (CrashAction SandboxStore)),
      ∀ before after, actions = before ++ after →
        let world := runActions CrashAction.step before (World.proposed proposal external)
        HasFailed world.db →
          (∀ visit ∈ visits CrashAction.step after world, ∀ moment ∈ visit.2.moments visit.1,
            ∀ step rotation, moment.issued ≠ .executeStep step rotation) ∧
          (runActions CrashAction.step after world).db.rotation.status ≠ .completed := by
  intro always
  have stopped := always namedPlan [] _
    [.advance (sandboxCall none), .crash 17 (sandboxCall (some "distribute"))]
    [.advance (sandboxCall none), .advance (sandboxCall none)] rfl (by decide)
  exact absurd stopped.2 (by decide)

end Sprawl
