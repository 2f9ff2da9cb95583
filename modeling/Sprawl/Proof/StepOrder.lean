/-
This file proves the order of the steps: done steps come before pending steps.
-/

import Sprawl.Proof.WorldStep

namespace Sprawl

open Effect

variable {κ : Type}

/-- A finished step. -/
def RotationStep.isDone (step : RotationStep) : Prop := step.status = .done

/-- A waiting step. -/
def RotationStep.isPending (step : RotationStep) : Prop := step.status = .pending

/-- A live rotation has done steps below pending steps. A completed rotation has done steps only. -/
structure InOrder (rows : Rows) : Prop where
  frontier : rows.rotation.status.isTerminal = false →
    Frontier RotationStep.idx RotationStep.isDone RotationStep.isPending rows.steps
  completed : rows.rotation.status = .completed → ∀ step ∈ rows.steps, step.status = .done

/-- A failed rollback and a successful one end a rotation without completing it. -/
theorem rollbackStatus_ended (failures : List String) :
    (rollbackStatus failures).isTerminal = true ∧ rollbackStatus failures ≠ .completed := by
  unfold rollbackStatus
  split <;> exact ⟨rfl, by simp⟩

/-- The rotation status at the end of a rollback. -/
theorem RolledBack.status {connectors : Connectors κ} {actor : String} {rows final : Rows}
    {rotation : Rotation} {steps : List RotationStep} {step : RotationStep}
    {error : Option String} {time : Time} {events : List ConnectorEvent}
    (undone : RolledBack connectors actor rows rotation steps step error time events final) :
    final.rotation.status.isTerminal = true ∧ final.rotation.status ≠ .completed := by
  obtain ⟨compensated, failures, all, rfl⟩ := undone.passes
  exact rollbackStatus_ended failures

namespace InOrder

theorem of_terminal {rows : Rows} (ended : rows.rotation.status.isTerminal = true)
    (unfinished : rows.rotation.status ≠ .completed) : InOrder rows where
  frontier active := by simp [ended] at active
  completed finished := absurd finished unfinished

/-- A new live status keeps the order of a live rotation. -/
theorem of_live {rows after : Rows} (inOrder : InOrder rows)
    (active : rows.rotation.status.isTerminal = false) (steps : after.steps = rows.steps)
    (live : after.rotation.status.isTerminal = false) : InOrder after where
  frontier _ := steps ▸ inOrder.frontier active
  completed finished := by
    rw [finished] at live
    exact absurd live (by decide)

theorem settles {rows after : Rows} {actor : String} {time : Time} (inOrder : InOrder rows)
    (settles : Settles rows actor time after) : InOrder after := by
  cases settles with
  | expired active late => exact inOrder.of_live active rfl rfl
  | completed live some finished =>
      refine ⟨fun active => ?_, fun _ => finished⟩
      have ended : RotationStatus.completed.isTerminal = false := active
      exact absurd ended (by decide)
  | paused live step next flagged unpaused => exact inOrder.of_live live.active rfl rfl
  | blocked live step next passed revoke incomplete => exact inOrder.of_live live.active rfl rfl

/-- A finished step extends the done block by the least pending step. -/
theorem frontier_finished {rows : Rows} {time : Time} {step : RotationStep}
    (inOrder : InOrder rows) (executes : Executes rows time step) :
    Frontier RotationStep.idx RotationStep.isDone RotationStep.isPending
      (updateSteps (fun other => other.id = step.id)
        { status := some .done, executedAt := some time } rows.steps) := by
  obtain ⟨inside, pending, least⟩ := Rows.nextStep_eq_some executes.next
  apply (inOrder.frontier executes.live.active).advance _ least
  · intro other
    split <;> rfl
  · intro other within different
    rw [if_neg]
    intro same
    have equal := rows.eq_of_id within inside (of_decide_eq_true same)
    exact different (congrArg RotationStep.idx equal)
  · intro other within same
    have equal := rows.eq_of_idx within inside same
    simp [equal, RotationStep.isDone]

/-- The last pending step has done steps on both sides. -/
theorem all_done_of_last {rows : Rows} {time : Time} {step : RotationStep}
    (inOrder : InOrder rows) (executes : Executes rows time step)
    (last : (remainingSteps rows.ordered step).isEmpty = true) :
    ∀ other ∈ updateSteps (fun other => other.id = step.id)
      { status := some .done, executedAt := some time } rows.steps, other.status = .done := by
  obtain ⟨inside, pending, least⟩ := Rows.nextStep_eq_some executes.next
  have frontier := inOrder.frontier executes.live.active
  intro other present
  obtain ⟨old, within, rfl⟩ := mem_updateSteps.mp present
  by_cases same : old.id = step.id
  · simp [same]
  · simp only [same, decide_false, Bool.false_eq_true, if_false]
    obtain ended | waits := frontier.covered old within
    · exact ended
    · have different : old.idx ≠ step.idx := fun equal =>
        same (congrArg RotationStep.id (rows.eq_of_idx within inside equal))
      have above : step.idx < old.idx :=
        lt_of_le_of_ne (least old within waits) (Ne.symm different)
      have remains : old ∈ remainingSteps rows.ordered step := by
        simp only [remainingSteps, List.mem_filter, Rows.mem_ordered]
        exact ⟨within, by simp [above, show old.status = .pending from waits]⟩
      rw [List.isEmpty_iff.mp last] at remains
      exact absurd remains List.not_mem_nil

theorem finished {rows : Rows} {time : Time} {step : RotationStep} (inOrder : InOrder rows)
    (executes : Executes rows time step) (actor : String) (ref : Option NewSecretRef) :
    InOrder ((rows.started actor step time).afterFinish actor rows.ordered step ref time) where
  frontier _ := by
    rw [Rows.afterFinish_steps, Rows.started_steps]
    exact inOrder.frontier_finished executes
  completed ended := by
    rw [Rows.afterFinish_status] at ended
    rw [Rows.afterFinish_steps, Rows.started_steps]
    by_cases last : (remainingSteps rows.ordered step).isEmpty
    · exact inOrder.all_done_of_last executes last
    · rw [if_neg last, Rows.started_status] at ended
      cases kind : step.kind <;> simp [kind, StepKind.toStatus] at ended

/-- An engine call keeps the order. -/
theorem engineEnd {connectors : Connectors κ} {actor : String} {session final : Session Rows κ}
    (inOrder : InOrder session.db) (ends : EngineEnd connectors actor session final) :
    InOrder final.db := by
  cases ends with
  | idle idles ends => exact ends.db ▸ inOrder
  | settled after settles ends => exact ends.db ▸ inOrder.settles settles
  | ran step executes ends =>
      cases ends with
      | finished done ends => exact ends.db ▸ inOrder.finished executes actor _
      | rolledBack failed later rows undone ends =>
          exact ends.db ▸ of_terminal undone.status.1 undone.status.2

/-- A request keeps the order. -/
theorem handled {request : Request} {session final : Session Rows κ}
    {reply : Except HttpError Json} (inOrder : InOrder session.db)
    (handled : Handled request session reply final) : InOrder final.db := by
  cases handled with
  | refused error => exact inOrder
  | approved claims role sent waiting body => exact ⟨inOrder.frontier, inOrder.completed⟩
  | rejected claims role sent waiting body => exact of_terminal rfl (by simp [Rows.rejected])
  | confirmed claims role step sent waiting inside pending body =>
      constructor
      · intro active
        apply (inOrder.frontier active).map
        · intro other
          split <;> rfl
        · intro other
          split <;> rfl
        · intro other
          split <;> rfl
      · intro ended
        have paused : session.db.rotation.status = .completed := ended
        rw [waiting] at paused
        exact absurd paused (by simp)

end InOrder

/-- A new proposal waits with all of its steps. -/
theorem Proposal.inOrder (proposal : Proposal) : InOrder proposal.rows where
  frontier _ := by
    apply Frontier.of_waiting
    · intro step waits ended
      rw [RotationStep.isPending] at waits
      rw [RotationStep.isDone, waits] at ended
      exact absurd ended (by simp)
    · intro step present
      obtain ⟨spec, _, rfl⟩ := List.mem_map.mp present
      rfl
  completed ended := absurd ended (by simp [Proposal.rows, Proposal.rotation])

/-- Every action keeps the order. -/
theorem InOrder.action {world : World κ} (action : Action κ) (inOrder : InOrder world.db) :
    InOrder (action.step world).db := by
  cases action with
  | request request clock =>
      obtain ⟨reply, final, handled, same⟩ := world.handle_end request clock
      have opened : InOrder (world.session.opened clock).db := inOrder
      have kept := opened.handled handled
      rw [Action.step, same]
      exact kept
  | advance invocation =>
      obtain ⟨final, ends, same⟩ := world.advance_end invocation
      have opened : InOrder (world.session.opened invocation.clock).db := inOrder
      have kept := opened.engineEnd ends
      rw [Action.step, same]
      exact kept

theorem InOrder.run (proposal : Proposal) (external : κ) (actions : List (Action κ)) :
    InOrder (runActions Action.step actions (World.proposed proposal external)).db :=
  invariant_always (fun world : World κ => InOrder world.db)
    (fun _ action inOrder => InOrder.action action inOrder) proposal.inOrder

/-- In every run the done steps precede the pending steps, a revoke step runs after every verify
step and every earlier step, and a completed rotation has only done steps. -/
theorem steps_run_in_order (proposal : Proposal) (external : κ) (actions : List (Action κ)) :
    let world := runActions Action.step actions (World.proposed proposal external)
    (world.db.rotation.status.isTerminal = false → ∃ done pending : List RotationStep,
      world.db.ordered = done ++ pending ∧ (∀ step ∈ done, step.status = .done) ∧
        ∀ step ∈ pending, step.status = .pending) ∧
    (∀ invocation, ∀ moment ∈ world.moments (world.engineCall invocation) invocation,
      ∀ step rotation, moment.issued = .executeStep step rotation → step.kind = .revoke →
        (∀ other ∈ moment.state.db.steps, other.kind = .verify → other.status = .done) ∧
        ∀ other ∈ moment.state.db.steps, other.idx < step.idx → other.status = .done) ∧
    (world.db.rotation.status = .completed → ∀ step ∈ world.db.steps, step.status = .done) := by
  intro world
  have inOrder : InOrder world.db := InOrder.run proposal external actions
  refine ⟨?_, ?_, inOrder.completed⟩
  · intro active
    have frontier := inOrder.frontier active
    have loaded : Frontier RotationStep.idx RotationStep.isDone RotationStep.isPending
        world.db.ordered :=
      { covered := fun step inside => frontier.covered step (world.db.mem_ordered.mp inside)
        closed := fun first inside second within =>
          frontier.closed first (world.db.mem_ordered.mp inside) second
            (world.db.mem_ordered.mp within) }
    apply loaded.blocks _ world.db.ordered_pairwise
    intro step waits ended
    rw [RotationStep.isPending] at waits
    rw [RotationStep.isDone, waits] at ended
    exact absurd ended (by simp)
  · intro invocation moment inside step rotation issued revoke
    obtain ⟨executes, _, _, rows⟩ := (world.advance_moment invocation moment inside).execution issued
    obtain ⟨present, pending, least⟩ := Rows.nextStep_eq_some executes.next
    rw [rows, Rows.started_steps]
    constructor
    · exact (Rows.answer_incompleteVerify_eq_zero _).mp (executes.verified revoke)
    · exact (inOrder.frontier executes.live.active).finished_of_lt least

end Sprawl
