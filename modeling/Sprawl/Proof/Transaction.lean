/-
This file proves what each transaction of the engine commits.
-/

import Sprawl.Proof.Order
import Sprawl.Rotation.System
import Mathlib.Tactic.MkIffOfInductiveProp

namespace Sprawl

open Effect

variable {κ : Type}

/-- A command that calls no connector. -/
def Command.isInternal : Command → Bool
  | .executeStep _ _ => false
  | .compensateStep _ _ => false
  | _ => true

namespace Rows

/-- The rows after an audit entry of the engine about their rotation. -/
def audited (rows : Rows) (actor action : String) (before after : Option (List (String × Json))) :
    Rows :=
  rows.withAudit
    { workspaceId := rows.rotation.workspaceId, actor, action, targetType := some "rotation"
      targetId := some rows.rotation.id, before, after }

section Audited

variable (rows : Rows) (actor action : String) (before after : Option (List (String × Json)))

@[simp] theorem audited_rotation :
    (rows.audited actor action before after).rotation = rows.rotation := rfl
@[simp] theorem audited_workspace :
    (rows.audited actor action before after).workspace = rows.workspace := rfl
@[simp] theorem audited_steps : (rows.audited actor action before after).steps = rows.steps := rfl

end Audited

/-- The rows after a returned reference has been saved. -/
def savedRef (rows : Rows) (time : Time) : Option NewSecretRef → Rows
  | some ref => rows.withNewSecretRef ref time
  | none => rows

@[simp] theorem savedRef_steps (rows : Rows) (time : Time) (ref : Option NewSecretRef) :
    (rows.savedRef time ref).steps = rows.steps := by
  cases ref <;> rfl

@[simp] theorem savedRef_status (rows : Rows) (time : Time) (ref : Option NewSecretRef) :
    (rows.savedRef time ref).rotation.status = rows.rotation.status := by
  cases ref <;> rfl

@[simp] theorem savedRef_id (rows : Rows) (time : Time) (ref : Option NewSecretRef) :
    (rows.savedRef time ref).rotation.id = rows.rotation.id := by
  cases ref <;> rfl

@[simp] theorem savedRef_workspaceId (rows : Rows) (time : Time) (ref : Option NewSecretRef) :
    (rows.savedRef time ref).rotation.workspaceId = rows.rotation.workspaceId := by
  cases ref <;> rfl

/-- The rows after the commit of a finished step. -/
def finished (rows : Rows) (actor : String) (step : RotationStep) (ref : Option NewSecretRef)
    (time : Time) : Rows :=
  ((rows.patchSteps (fun other => other.id = step.id)
    { status := some .done, executedAt := some time }).savedRef time ref).audited actor
      ("rotation.step." ++ step.kind.value ++ ".done") none
      (some [("step_idx", .int step.idx), ("kind", .str step.kind.value)])

/-- The rows after the commit of a failed step. -/
def failed (rows : Rows) (actor : String) (step : RotationStep) (error : Option String)
    (time : Time) : Rows :=
  (rows.patchSteps (fun other => other.id = step.id)
    { status := some .failed, executedAt := some time, error := some error }).audited actor
      ("rotation.step." ++ step.kind.value ++ ".failed") none
      (some [("step_idx", .int step.idx), ("error", error.elim .null .str)])

section Outcome

variable (rows : Rows) (actor : String) (step : RotationStep) (ref : Option NewSecretRef)
  (error : Option String) (time : Time)

@[simp] theorem finished_id : (rows.finished actor step ref time).rotation.id = rows.rotation.id := by
  simp [finished]
@[simp] theorem finished_workspaceId :
    (rows.finished actor step ref time).rotation.workspaceId = rows.rotation.workspaceId := by
  simp [finished]
@[simp] theorem finished_status :
    (rows.finished actor step ref time).rotation.status = rows.rotation.status := by
  simp [finished]
@[simp] theorem finished_steps : (rows.finished actor step ref time).steps =
    updateSteps (fun other => other.id = step.id)
      { status := some .done, executedAt := some time } rows.steps := by
  simp [finished]
@[simp] theorem failed_rotation : (rows.failed actor step error time).rotation = rows.rotation := rfl
@[simp] theorem failed_steps : (rows.failed actor step error time).steps =
    updateSteps (fun other => other.id = step.id)
      { status := some .failed, executedAt := some time, error := some error } rows.steps := rfl

end Outcome

/-- The rows that show the running step. -/
def started (rows : Rows) (actor : String) (step : RotationStep) (time : Time) : Rows :=
  if rows.rotation.status ≠ step.kind.toStatus then
    (rows.withStatus step.kind.toStatus time).audited actor
      ("rotation.step." ++ step.kind.value ++ ".started")
      (some [statusField rows.rotation.status])
      (some [statusField step.kind.toStatus, ("step_idx", .int step.idx)])
  else rows

end Rows

/-- A session reaches rows when it has committed them and has added the given connector events. -/
@[mk_iff]
structure Reaches (session : Session Rows κ) (rows : Rows) (events : List ConnectorEvent)
    (final : Session Rows κ) : Prop where
  db : final.db = rows
  pending : final.pending = []
  calls : final.calls = session.calls ++ events
  queue : final.queue = session.queue
  locks : final.locks = session.locks
  clock : final.clock = session.clock

theorem Reaches.trans {session middle final : Session Rows κ} {first rows : Rows}
    {events later : List ConnectorEvent} (before : Reaches session first events middle)
    (after : Reaches middle rows later final) : Reaches session rows (events ++ later) final where
  db := after.db
  pending := after.pending
  calls := by rw [after.calls, before.calls, List.append_assoc]
  queue := after.queue.trans before.queue
  locks := after.locks.trans before.locks
  clock := after.clock.trans before.clock

theorem Reaches.refl {session : Session Rows κ} (empty : session.pending = []) :
    Reaches session session.db [] session :=
  ⟨rfl, empty, by simp, rfl, rfl, rfl⟩

/-- A session commits rows when it reaches them without a connector. -/
@[mk_iff]
structure Commits (session : Session Rows κ) (rows : Rows) (final : Session Rows κ) : Prop where
  reaches : Reaches session rows [] final
  external : final.external = session.external

/-- A quiet moment calls no connector and sees rows of the given kind. -/
@[mk_iff]
structure Quiet (session : Session Rows κ) (seen : Rows → Prop)
    (moment : Moment Command Command.Reply (Session Rows κ)) : Prop where
  internal : moment.issued.isInternal = true
  calls : moment.state.calls = session.calls
  rows : seen moment.state.db

theorem Quiet.mono {session : Session Rows κ} {seen other : Rows → Prop}
    {moment : Moment Command Command.Reply (Session Rows κ)} (quiet : Quiet session seen moment)
    (weaker : ∀ rows, seen rows → other rows) : Quiet session other moment :=
  ⟨quiet.internal, quiet.calls, weaker _ quiet.rows⟩

/-- A program transacts when it calls no connector and ends with committed rows. -/
def Transacts {α : Type} (connectors : Connectors κ) (program : RotationProgram α)
    (session : Session Rows κ) (seen : Rows → Prop) (rows : Rows) : Prop :=
  program.Ensures (Session.answer connectors) session (Quiet session seen)
    fun _ final => Commits session rows final

section Engine

attribute [local simp] select write commit now publish issue auditRotation setRotationStatus
  Session.view SqlStore.apply Rows.apply Rows.audited

variable (connectors : Connectors κ) {session : Session Rows κ} (actor : String)

/-- A transaction that writes nothing ends where it starts. -/
theorem transacts_return {α : Type} {seen : Rows → Prop} (empty : session.pending = []) (value : α) :
    Transacts connectors (return value) session seen session.db :=
  Program.ensures_pure ⟨Reaches.refl empty, rfl⟩

/-- Two transactions follow each other. -/
theorem Transacts.bind {α β : Type} {connectors : Connectors κ} {program : RotationProgram α}
    {next : α → RotationProgram β} {seen : Rows → Prop} {middle rows : Rows}
    (first : Transacts connectors program session seen middle)
    (second : ∀ value reached, Commits session middle reached →
      Transacts connectors (next value) reached seen rows) :
    Transacts connectors (program >>= next) session seen rows := by
  apply Program.Ensures.bind first
  intro value reached commits
  have same : reached.calls = session.calls := by rw [commits.reaches.calls, List.append_nil]
  exact Program.Ensures.mono (second value reached commits)
    (fun moment quiet => ⟨quiet.internal, quiet.calls.trans same, quiet.rows⟩)
    fun _ _ ends => ⟨commits.reaches.trans ends.reaches, ends.external.trans commits.external⟩

/-- A wider set of rows may be seen. -/
theorem Transacts.mono {α : Type} {connectors : Connectors κ} {program : RotationProgram α}
    {seen other : Rows → Prop} {rows : Rows}
    (holds : Transacts connectors program session seen rows)
    (weaker : ∀ rows, seen rows → other rows) :
    Transacts connectors program session other rows :=
  Program.Ensures.mono holds (fun _ quiet => quiet.mono weaker) fun _ _ ends => ends

/-- The rows before or after a transaction. -/
def Either (before after rows : Rows) : Prop := rows = before ∨ rows = after

attribute [local simp] Either Command.isInternal quiet_iff reaches_iff commits_iff

/-- An expired plan moves the rotation to `needs_replan`. -/
theorem expirePlan_transacts (empty : session.pending = []) (rotation : Rotation) :
    let after := (session.db.withStatus .needsReplan session.clock).audited actor
      "rotation.plan_expired" (some [statusField rotation.status])
      (some [statusField .needsReplan])
    Transacts connectors
      (expirePlan session.db.rotation.id session.db.rotation.workspaceId actor rotation) session
      (Either session.db after) after := by
  constructor <;> simp [expirePlan, empty]

/-- The rows of a completed rotation. -/
def Rows.completed (rows : Rows) (actor : String) (before : RotationStatus) (time : Time) : Rows :=
  (rows.withStatus .completed time).audited actor "rotation.completed"
    (some [statusField before]) (some [statusField .completed])

/-- A completion moves the rotation to `completed`. -/
theorem completeRotation_transacts (empty : session.pending = []) (before : RotationStatus)
    (message : String) :
    let after := session.db.completed actor before session.clock
    Transacts connectors
      (completeRotation session.db.rotation.id session.db.rotation.workspaceId actor before message)
      session (Either session.db after) after := by
  constructor <;> simp [completeRotation, Rows.completed, empty]

/-- A pause moves the rotation to `awaiting_confirmation`. -/
theorem awaitConfirmation_transacts (empty : session.pending = []) (rotation : Rotation)
    (step : RotationStep) :
    let after := (session.db.withStatus .awaitingConfirmation session.clock).audited actor
      "rotation.awaiting_confirmation" (some [statusField rotation.status])
      (some [statusField .awaitingConfirmation, ("waiting_on_step", .int step.idx)])
    Transacts connectors
      (awaitConfirmation session.db.rotation.id session.db.rotation.workspaceId actor rotation step)
      session (Either session.db after) after := by
  constructor <;> simp [awaitConfirmation, empty]

/-- A blocked gate moves the rotation to the status of the gate. -/
theorem blockRevoke_transacts (empty : session.pending = []) (step : RotationStep)
    (blocked : GateBlockedError) :
    let after := session.db.withStatus blocked.rotationStatus session.clock
    Transacts connectors
      (blockRevoke session.db.rotation.id session.db.rotation.workspaceId step blocked) session
      (Either session.db after) after := by
  constructor <;> simp [blockRevoke, empty]

/-- A start shows the running step in the rotation status. -/
theorem startStep_transacts (empty : session.pending = []) (step : RotationStep) :
    let after := session.db.started actor step session.clock
    Transacts connectors
      (startStep session.db.rotation.id session.db.rotation.workspaceId actor session.db.rotation
        step) session (Either session.db after) after := by
  by_cases shown : session.db.rotation.status = step.kind.toStatus
  · simp only [startStep, Rows.started, shown, ne_eq, not_true_eq_false, if_false]
    exact transacts_return connectors empty ()
  · constructor <;> simp [startStep, Rows.started, shown, empty]

/-- The first transaction of a finished step. -/
def recordFinished (rotationId workspaceId : Uuid) (step : RotationStep) (result : StepResult)
    (time : Time) : RotationProgram Unit := do
  write (.step step.id { status := some .done, executedAt := some time })
  saveNewSecretRef rotationId time result.newSecretRef
  auditRotation workspaceId actor ("rotation.step." ++ step.kind.value ++ ".done") rotationId
    none (some [("step_idx", .int step.idx), ("kind", .str step.kind.value)])
  commit
  publish workspaceId ("rotation.step." ++ step.kind.value ++ ".done")
    [rotationField rotationId, ("step_idx", .int step.idx)]

theorem recordFinished_transacts (empty : session.pending = []) (step : RotationStep)
    (result : StepResult) (time : Time) :
    let after := session.db.finished actor step result.newSecretRef time
    Transacts connectors
      (recordFinished actor session.db.rotation.id session.db.rotation.workspaceId step result time)
      session (Either session.db after) after := by
  cases saved : result.newSecretRef with
  | none =>
      constructor <;>
        simp [recordFinished, saveNewSecretRef, Rows.finished, Rows.savedRef, saved, empty]
  | some ref =>
      constructor <;>
        simp [recordFinished, saveNewSecretRef, Rows.finished, Rows.savedRef, saved, empty]

/-- The loaded steps after a step that are still pending. -/
def remainingSteps (steps : List RotationStep) (step : RotationStep) : List RotationStep :=
  steps.filter fun other => step.idx < other.idx && other.status = .pending

theorem finishStep_eq (rotationId workspaceId : Uuid) (steps : List RotationStep)
    (step : RotationStep) (result : StepResult) (time : Time) :
    finishStep rotationId workspaceId actor steps step result time = (do
      recordFinished actor rotationId workspaceId step result time
      if (remainingSteps steps step).isEmpty then
        completeRotation rotationId workspaceId actor step.kind.toStatus
          "Last step done — rotation complete"
      else
        return {
          rotationStatus := step.kind.toStatus.value
          nextStepIdx := some (step.idx + 1)
          shouldContinue := true
          message := "Step " ++ toString step.idx ++ " done — continuing" }) := by
  simp [finishStep, recordFinished, remainingSteps]

/-- The rows after a finished step. The last step completes the rotation. -/
def Rows.afterFinish (rows : Rows) (steps : List RotationStep) (step : RotationStep)
    (ref : Option NewSecretRef) (time : Time) : Rows :=
  if (remainingSteps steps step).isEmpty then
    (rows.finished actor step ref time).completed actor step.kind.toStatus time
  else rows.finished actor step ref time

@[simp] theorem Rows.afterFinish_steps (rows : Rows) (steps : List RotationStep)
    (step : RotationStep) (ref : Option NewSecretRef) (time : Time) :
    (rows.afterFinish actor steps step ref time).steps =
      updateSteps (fun other => other.id = step.id)
        { status := some .done, executedAt := some time } rows.steps := by
  unfold Rows.afterFinish
  split
  · exact Rows.finished_steps rows actor step ref time
  · exact Rows.finished_steps rows actor step ref time

theorem Rows.afterFinish_status (rows : Rows) (steps : List RotationStep)
    (step : RotationStep) (ref : Option NewSecretRef) (time : Time) :
    (rows.afterFinish actor steps step ref time).rotation.status =
      if (remainingSteps steps step).isEmpty then .completed else rows.rotation.status := by
  unfold Rows.afterFinish
  split
  · rfl
  · exact Rows.finished_status rows actor step ref time

theorem finishStep_transacts (empty : session.pending = []) (steps : List RotationStep)
    (step : RotationStep) (result : StepResult) :
    let middle := session.db.finished actor step result.newSecretRef session.clock
    let after := session.db.afterFinish actor steps step result.newSecretRef session.clock
    Transacts connectors
      (finishStep session.db.rotation.id session.db.rotation.workspaceId actor steps step result
        session.clock)
      session (fun rows => Either session.db middle rows ∨ rows = after) after := by
  intro middle after
  rw [finishStep_eq]
  refine Transacts.bind ((recordFinished_transacts connectors actor empty step result
    session.clock).mono fun _ holds => Or.inl holds) ?_
  intro _ reached given
  obtain ⟨reaches, external⟩ := given
  by_cases last : (remainingSteps steps step).isEmpty
  · rw [if_pos last]
    have ends := completeRotation_transacts connectors actor reaches.pending step.kind.toStatus
      "Last step done — rotation complete"
    simp only [reaches.db, reaches.clock, Rows.finished_id, Rows.finished_workspaceId] at ends
    have same : after = middle.completed actor step.kind.toStatus session.clock := if_pos last
    rw [same]
    apply ends.mono
    intro rows given
    obtain seen | seen := given
    · exact Or.inl (Or.inr seen)
    · exact Or.inr seen
  · rw [if_neg last]
    have same : after = reached.db := (if_neg last).trans reaches.db.symm
    rw [same]
    exact transacts_return connectors reaches.pending _

end Engine

end Sprawl
