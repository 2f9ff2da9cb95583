/-
This file proves what the rollback compensates and commits.
-/

import Sprawl.Proof.Outcome
import Sprawl.Proof.Transaction

namespace Sprawl

open Effect

variable {κ : Type}

/-- A command that runs the executor of a step. -/
def Command.isExecution : Command → Bool
  | .executeStep _ _ => true
  | _ => false

/-- The columns that one pass of the rollback loop sets. -/
def compensationPatch (result : StepResult) (time : Time) : StepPatch where
  status := some (if result.status = .compensated then .compensated else .failed)
  executedAt := some time
  error := some result.error

/-- The passes of the rollback loop with their events, their rows and their failures. -/
inductive CompensatedAll (keys : ConnectorKeys) (rotation : Rotation) (time : Time) :
    List RotationStep → Rows → List ConnectorEvent → Rows → List String → Prop where
  | nil (rows : Rows) : CompensatedAll keys rotation time [] rows [] rows []
  | cons {step : RotationStep} {rest : List RotationStep} {rows final : Rows}
      {events later : List ConnectorEvent} {result : StepResult} {failures : List String}
      (first : Compensated keys step rotation events result)
      (others : CompensatedAll keys rotation time rest
        (rows.patchSteps (fun other => other.id = step.id) (compensationPatch result time))
        later final failures) :
      CompensatedAll keys rotation time (step :: rest) rows (events ++ later) final
        (if result.status = .compensated then failures
          else ("step " ++ toString step.idx ++ ": " ++ result.error.getD "None") :: failures)

/-- The loop leaves the rotation row alone. -/
theorem CompensatedAll.rotation_eq {keys : ConnectorKeys} {rotation : Rotation} {time : Time}
    {steps : List RotationStep} {rows final : Rows} {events : List ConnectorEvent}
    {failures : List String}
    (all : CompensatedAll keys rotation time steps rows events final failures) :
    final.rotation = rows.rotation := by
  induction all with
  | nil => rfl
  | cons first others ih => rw [ih, Rows.patchSteps_rotation]

/-- A moment of the rollback loop. It compensates a step or records a compensation. -/
inductive Compensates (keys : ConnectorKeys) (rotation : Rotation) (time : Time)
    (steps : List RotationStep) (rows : Rows) (calls : List ConnectorEvent)
    (moment : Moment Command Command.Reply (Session Rows κ)) : Prop where
  | calling (before : List RotationStep) (step : RotationStep) (rest : List RotationStep)
      (split : steps = before ++ step :: rest) (events : List ConnectorEvent)
      (failures : List String)
      (passes : CompensatedAll keys rotation time before rows events moment.state.db failures)
      (issued : moment.issued = .compensateStep step rotation)
      (called : moment.state.calls = calls ++ events)
  | recording (before : List RotationStep) (step : RotationStep) (rest : List RotationStep)
      (split : steps = before ++ step :: rest) (events more : List ConnectorEvent)
      (failures : List String) (result : StepResult)
      (passes : CompensatedAll keys rotation time before rows events moment.state.db failures)
      (outcome : Compensated keys step rotation more result)
      (internal : moment.issued.isInternal = true)
      (called : moment.state.calls = calls ++ events ++ more)

/-- A moment of the later passes is a moment of the whole loop. -/
theorem Compensates.cons {keys : ConnectorKeys} {rotation : Rotation} {time : Time}
    {first : RotationStep} {steps : List RotationStep} {rows : Rows}
    {calls events : List ConnectorEvent} {result : StepResult}
    {moment : Moment Command Command.Reply (Session Rows κ)}
    (outcome : Compensated keys first rotation events result)
    (later : Compensates keys rotation time steps
      (rows.patchSteps (fun other => other.id = first.id) (compensationPatch result time))
      (calls ++ events) moment) :
    Compensates keys rotation time (first :: steps) rows calls moment := by
  cases later with
  | calling before step rest split others failures passes issued called =>
      refine .calling (first :: before) step rest (congrArg (first :: ·) split) (events ++ others) _
        (.cons outcome passes) issued ?_
      rw [called, List.append_assoc]
  | recording before step rest split others more failures result passes last internal called =>
      refine .recording (first :: before) step rest (congrArg (first :: ·) split)
        (events ++ others) more _ result (.cons outcome passes) last internal ?_
      rw [called]
      simp only [List.append_assoc]

attribute [local simp] select write commit now publish issue auditRotation setRotationStatus
  Session.view SqlStore.apply Rows.apply Rows.audited Command.isInternal quiet_iff reaches_iff
  commits_iff Either

/-- One pass of the rollback loop. -/
def compensationPass (rotation : Rotation) (time : Time) (step : RotationStep) :
    RotationProgram StepResult := do
  let result : StepResult ← callCompensateStep step rotation
  write (.step step.id (compensationPatch result time))
  commit
  return result

theorem compensationPass_ensures (connectors : Connectors κ) (rotation : Rotation) (time : Time)
    (step : RotationStep) (rest : List RotationStep) {session : Session Rows κ}
    (empty : session.pending = []) :
    (compensationPass rotation time step).Ensures (Session.answer connectors) session
      (Compensates connectors.toConnectorKeys rotation time (step :: rest) session.db session.calls)
      fun result final => ∃ events,
        Compensated connectors.toConnectorKeys step rotation events result ∧
          Reaches session (session.db.patchSteps (fun other => other.id = step.id)
            (compensationPatch result time)) events final := by
  have outcome := compensateStep_compensated connectors step rotation session.external
  have called : (session.answer connectors (.compensateStep step rotation)).2.calls =
      session.calls ++ [] ++ ((compensateStep connectors.toConnectorKeys step rotation).trace
        connectors.answer session.external).map eventOf := by
    rw [Session.answer_compensateStep, Session.runConnectors_eq, List.append_nil]
  have rows : (session.answer connectors (.compensateStep step rotation)).2.db = session.db := by
    rw [Session.answer_compensateStep, Session.runConnectors_eq]
  constructor
  · intro moment inside
    simp only [compensationPass, callCompensateStep, write, commit, issue, Program.trace_bind,
      Program.trace_perform, Program.trace_pure, List.append_nil, List.singleton_append,
      List.mem_cons, List.not_mem_nil, or_false] at inside
    obtain rfl | rfl | rfl := inside
    · exact .calling [] step rest rfl [] [] (.nil _) rfl (List.append_nil _).symm
    · exact .recording [] step rest rfl [] _ [] _ (rows ▸ .nil _) outcome rfl called
    · exact .recording [] step rest rfl [] _ [] _ (rows ▸ .nil _) outcome rfl called
  · refine ⟨((compensateStep connectors.toConnectorKeys step rotation).trace connectors.answer
      session.external).map eventOf, ?_, ?_⟩
    · simpa [compensationPass, callCompensateStep, Session.runConnectors_eq] using outcome
    · simp [compensationPass, callCompensateStep, Session.runConnectors_eq, empty]

theorem compensateSteps_cons (rotation : Rotation) (time : Time) (step : RotationStep)
    (rest : List RotationStep) :
    compensateSteps rotation time (step :: rest) = (do
      let result ← compensationPass rotation time step
      let failures ← compensateSteps rotation time rest
      return if result.status = .compensated then failures
        else ("step " ++ toString step.idx ++ ": " ++ result.error.getD "None") :: failures) := by
  have choice (result : StepResult) (failures : List String) :
      (if (if result.status = .compensated then StepStatus.compensated else .failed) = .failed then
        ("step " ++ toString step.idx ++ ": " ++ result.error.getD "None") :: failures
        else failures) =
      if result.status = .compensated then failures
        else ("step " ++ toString step.idx ++ ": " ++ result.error.getD "None") :: failures := by
    by_cases done : result.status = .compensated <;> simp [done]
  simp only [compensateSteps, compensationPass, compensationPatch, choice, bind_assoc,
    Program.bind_pure_left]

/-- The loop calls the executors of its steps, records what they return and commits. -/
theorem compensateSteps_issues {allowed : Command → Prop} {rotation : Rotation}
    (calls : ∀ step, allowed (.compensateStep step rotation))
    (records : ∀ stepId result time,
      allowed (.write (.step stepId (compensationPatch result time))))
    (commits : allowed .commit) (time : Time) (steps : List RotationStep) :
    (compensateSteps rotation time steps).Issues allowed := by
  induction steps with
  | nil => exact trivial
  | cons step rest ih =>
      rw [compensateSteps_cons]
      refine Program.issues_bind ?_ fun result => Program.issues_bind ih fun failures => trivial
      exact ⟨calls step, fun result => ⟨records step.id result time, fun _ => ⟨commits, fun _ =>
        trivial⟩⟩⟩

/-- The loop compensates its steps in order, and a failure does not stop it. -/
theorem compensateSteps_ensures (connectors : Connectors κ) (rotation : Rotation) (time : Time)
    (steps : List RotationStep) {session : Session Rows κ} (empty : session.pending = []) :
    (compensateSteps rotation time steps).Ensures (Session.answer connectors) session
      (Compensates connectors.toConnectorKeys rotation time steps session.db session.calls)
      fun failures final => ∃ events rows,
        CompensatedAll connectors.toConnectorKeys rotation time steps session.db events rows
          failures ∧ Reaches session rows events final := by
  induction steps generalizing session with
  | nil =>
      exact Program.ensures_pure ⟨[], session.db, .nil _, Reaches.refl empty⟩
  | cons step rest ih =>
      rw [compensateSteps_cons]
      apply (compensationPass_ensures connectors rotation time step rest empty).bind
      intro result reached given
      obtain ⟨events, first, reaches⟩ := given
      have others := ih reaches.pending
      rw [reaches.db, reaches.calls] at others
      apply (others.mono (fun _ inside => inside.cons first) fun _ _ ends => ends).bind
      intro failures final given
      obtain ⟨later, rows, all, ends⟩ := given
      exact Program.ensures_pure ⟨events ++ later, rows, .cons first all, reaches.trans ends⟩

/-- The rows at the start of a rollback. -/
def Rows.rollingBack (rows : Rows) (actor : String) (failedIdx : Int) (time : Time) : Rows :=
  (rows.withStatus .rollingBack time).audited actor "rotation.rolling_back" none
    (some [statusField .rollingBack, ("failed_at_step", .int failedIdx)])

/-- The final status of a rollback. -/
def rollbackStatus (failures : List String) : RotationStatus :=
  if failures.isEmpty then .rolledBack else .rollbackFailed

/-- The rows at the end of a rollback. -/
def Rows.rollbackEnded (rows : Rows) (actor : String) (failures : List String) (time : Time) :
    Rows :=
  (rows.withStatus (rollbackStatus failures) time).audited actor
    ("rotation." ++ (rollbackStatus failures).value) none
    (some [statusField (rollbackStatus failures),
      ("compensation_failures", .arr (failures.map .str))])

/-- The first transaction of a rollback. -/
def beginRollback (rotationId workspaceId : Uuid) (actor : String) (failedIdx : Int) :
    RotationProgram Unit := do
  setRotationStatus rotationId workspaceId .rollingBack
  auditRotation workspaceId actor "rotation.rolling_back" rotationId
    none (some [statusField .rollingBack, ("failed_at_step", .int failedIdx)])
  commit
  publish workspaceId "rotation.rolling_back" [rotationField rotationId]

/-- The last transaction of a rollback. -/
def endRollback (rotationId workspaceId : Uuid) (actor : String) (failures : List String) :
    RotationProgram EngineResult := do
  setRotationStatus rotationId workspaceId (rollbackStatus failures)
  auditRotation workspaceId actor ("rotation." ++ (rollbackStatus failures).value) rotationId
    none (some [statusField (rollbackStatus failures),
      ("compensation_failures", .arr (failures.map .str))])
  commit
  publish workspaceId ("rotation." ++ (rollbackStatus failures).value) [rotationField rotationId]
  return {
    rotationStatus := (rollbackStatus failures).value
    error := if failures.isEmpty then none else some ("; ".intercalate failures)
    message := if failures.isEmpty then "Rollback succeeded" else "Rollback partially failed" }

theorem rollback_eq (rotationId workspaceId : Uuid) (actor : String) (failedIdx : Int)
    (steps : List RotationStep) (rotation : Rotation) :
    rollback rotationId workspaceId actor failedIdx steps rotation = (do
      beginRollback rotationId workspaceId actor failedIdx
      let time ← Sprawl.now
      let failures ← compensateSteps rotation time (stepsToCompensate steps)
      endRollback rotationId workspaceId actor failures) := by
  simp only [rollback, beginRollback, endRollback, rollbackStatus, bind_assoc]

/-- The statuses that a rollback shows. -/
def RollbackStatus (before status : RotationStatus) : Prop :=
  status = before ∨ status = .rollingBack ∨ status = .rolledBack ∨ status = .rollbackFailed

/-- The moments of a rollback execute no step and see the rotation rows of the given kind. -/
structure Compensating (seen : Rotation → Prop)
    (moment : Moment Command Command.Reply (Session Rows κ)) : Prop where
  execution : moment.issued.isExecution = false
  rotation : seen moment.state.db.rotation

theorem Command.isExecution_of_internal {issued : Command} (internal : issued.isInternal = true) :
    issued.isExecution = false := by
  cases issued <;> first | rfl | simp at internal

theorem rollbackStatus_shown (before : RotationStatus) (failures : List String) :
    RollbackStatus before (rollbackStatus failures) := by
  unfold rollbackStatus RollbackStatus
  split <;> simp

section Ends

variable (connectors : Connectors κ) {session : Session Rows κ} (empty : session.pending = [])
  (actor : String)

include empty

theorem beginRollback_transacts (failedIdx : Int) :
    let after := session.db.rollingBack actor failedIdx session.clock
    Transacts connectors
      (beginRollback session.db.rotation.id session.db.rotation.workspaceId actor failedIdx) session
      (Either session.db after) after := by
  constructor <;> simp [beginRollback, Rows.rollingBack, empty]

theorem endRollback_transacts (failures : List String) :
    let after := session.db.rollbackEnded actor failures session.clock
    Transacts connectors
      (endRollback session.db.rotation.id session.db.rotation.workspaceId actor failures) session
      (Either session.db after) after := by
  constructor <;> simp [endRollback, Rows.rollbackEnded, empty]

end Ends

end Sprawl
