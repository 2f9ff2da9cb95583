/-
This file proves what one `advance_rotation` call does.
-/

import Sprawl.Proof.Rollback

namespace Sprawl

open Effect

variable {κ : Type}

attribute [local simp] select write commit now publish issue auditRotation setRotationStatus
  Session.view SqlStore.apply Rows.apply Rows.audited Command.isInternal Command.isExecution
  quiet_iff reaches_iff commits_iff Either

/-- This is the outcome of an executor that meets the outside world of a session. -/
def Session.outcome (session : Session Rows κ) (connectors : Connectors κ) (step : RotationStep)
    (rotation : Rotation) : StepResult :=
  ((executeStep connectors.toConnectorKeys step rotation).run connectors.answer
    session.external).1

/-- These are the connector events of the same executor. -/
def Session.outcomeEvents (session : Session Rows κ) (connectors : Connectors κ)
    (step : RotationStep) (rotation : Rotation) : List ConnectorEvent :=
  ((executeStep connectors.toConnectorKeys step rotation).trace connectors.answer
    session.external).map eventOf

theorem Session.outcome_executed (session : Session Rows κ) (connectors : Connectors κ)
    (step : RotationStep) (rotation : Rotation) :
    Executed connectors.toConnectorKeys step rotation
      (session.outcomeEvents connectors step rotation)
      (session.outcome connectors step rotation) :=
  executeStep_executed connectors step rotation session.external

/-- An outcome depends on the outside world only. -/
theorem Session.outcome_congr {session other : Session Rows κ} (connectors : Connectors κ)
    (step : RotationStep) (rotation : Rotation) (external : other.external = session.external) :
    other.outcome connectors step rotation = session.outcome connectors step rotation := by
  rw [Session.outcome, external, Session.outcome]

theorem Session.outcomeEvents_congr {session other : Session Rows κ} (connectors : Connectors κ)
    (step : RotationStep) (rotation : Rotation) (external : other.external = session.external) :
    other.outcomeEvents connectors step rotation =
      session.outcomeEvents connectors step rotation := by
  rw [Session.outcomeEvents, external, Session.outcomeEvents]

/-- An execution commits nothing and adds its events. -/
theorem Session.answer_executeStep_reaches {session : Session Rows κ} (connectors : Connectors κ)
    (empty : session.pending = []) (step : RotationStep) (rotation : Rotation) :
    (session.answer connectors (.executeStep step rotation)).1 =
        session.outcome connectors step rotation ∧
      Reaches session session.db (session.outcomeEvents connectors step rotation)
        (session.answer connectors (.executeStep step rotation)).2 := by
  rw [Session.answer_executeStep, Session.runConnectors_eq]
  exact ⟨rfl, rfl, empty, rfl, rfl, rfl, rfl⟩

/-- The step that a command records as done. -/
def Command.recordsDone : Command → Option Uuid
  | .write (.step stepId patch) => if patch.status = some .done then some stepId else none
  | _ => none

/-- The first transaction of a failed step. -/
def recordFailed (rotationId workspaceId : Uuid) (actor : String) (step : RotationStep)
    (result : StepResult) (time : Time) : RotationProgram Unit := do
  write (.step step.id
    { status := some .failed, executedAt := some time, error := some result.error })
  auditRotation workspaceId actor ("rotation.step." ++ step.kind.value ++ ".failed") rotationId
    none (some [("step_idx", .int step.idx), ("error", result.error.elim .null .str)])
  commit
  publish workspaceId ("rotation.step." ++ step.kind.value ++ ".failed")
    [rotationField rotationId, ("step_idx", .int step.idx),
      ("error", result.error.elim .null .str)]

theorem recordFailed_transacts (connectors : Connectors κ) {session : Session Rows κ}
    (empty : session.pending = []) (actor : String) (step : RotationStep) (result : StepResult)
    (time : Time) :
    let after := session.db.failed actor step result.error time
    Transacts connectors
      (recordFailed session.db.rotation.id session.db.rotation.workspaceId actor step result time)
      session (Either session.db after) after := by
  constructor <;> simp [recordFailed, Rows.failed, empty]

theorem failStep_eq (rotationId workspaceId : Uuid) (actor : String) (steps : List RotationStep)
    (rotation : Rotation) (step : RotationStep) (result : StepResult) (time : Time) :
    failStep rotationId workspaceId actor steps rotation step result time = (do
      recordFailed rotationId workspaceId actor step result time
      rollback rotationId workspaceId actor step.idx steps rotation) := by
  simp only [failStep, recordFailed, bind_assoc]

/-- The rows at the end of a rollback after a failed step. -/
structure RolledBack (connectors : Connectors κ) (actor : String) (rows : Rows)
    (rotation : Rotation) (steps : List RotationStep) (step : RotationStep) (error : Option String)
    (time : Time) (events : List ConnectorEvent) (final : Rows) : Prop where
  passes : ∃ compensated failures,
    CompensatedAll connectors.toConnectorKeys rotation time (stepsToCompensate steps)
      ((rows.failed actor step error time).rollingBack actor step.idx time) events compensated
      failures ∧ final = compensated.rollbackEnded actor failures time

/-- The rows of a failed step at the start of its rollback. -/
abbrev Rows.undoing (rows : Rows) (actor : String) (step : RotationStep) (error : Option String)
    (time : Time) : Rows :=
  (rows.failed actor step error time).rollingBack actor step.idx time

/-- These are the moments of a failed step and its rollback. -/
inductive Undoes (connectors : Connectors κ) (actor : String) (session : Session Rows κ)
    (rotation : Rotation) (steps : List RotationStep) (step : RotationStep) (error : Option String)
    (moment : Moment Command Command.Reply (Session Rows κ)) : Prop where
  | failing (internal : moment.issued.isInternal = true)
      (calls : moment.state.calls = session.calls)
      (rows : Either session.db (session.db.failed actor step error session.clock) moment.state.db)
  | beginning (internal : moment.issued.isInternal = true)
      (calls : moment.state.calls = session.calls)
      (rows : Either (session.db.failed actor step error session.clock)
        (session.db.undoing actor step error session.clock) moment.state.db)
  | compensating (within : Compensates connectors.toConnectorKeys rotation session.clock
      (stepsToCompensate steps) (session.db.undoing actor step error session.clock) session.calls
      moment)
  | ending (events : List ConnectorEvent) (compensated : Rows) (failures : List String)
      (all : CompensatedAll connectors.toConnectorKeys rotation session.clock
        (stepsToCompensate steps) (session.db.undoing actor step error session.clock) events
        compensated failures)
      (internal : moment.issued.isInternal = true)
      (calls : moment.state.calls = session.calls ++ events)
      (rows : Either compensated (compensated.rollbackEnded actor failures session.clock)
        moment.state.db)

/-- A failed step and its rollback execute nothing and show the statuses of a rollback. -/
theorem Undoes.shown {connectors : Connectors κ} {actor : String} {session : Session Rows κ}
    {rotation : Rotation} {steps : List RotationStep} {step : RotationStep} {error : Option String}
    {moment : Moment Command Command.Reply (Session Rows κ)}
    (undoes : Undoes connectors actor session rotation steps step error moment) :
    Compensating (fun seen => RollbackStatus session.db.rotation.status seen.status) moment := by
  -- The loop leaves the rotation row as the start of the rollback has written it.
  have passed {queue : List RotationStep} {events : List ConnectorEvent} {rows : Rows}
      {failures : List String}
      (all : CompensatedAll connectors.toConnectorKeys rotation session.clock queue
        (session.db.undoing actor step error session.clock) events rows failures) :
      RollbackStatus session.db.rotation.status rows.rotation.status := by
    rw [all.rotation_eq]
    exact Or.inr (Or.inl rfl)
  cases undoes with
  | failing internal calls rows =>
      refine ⟨Command.isExecution_of_internal internal, Or.inl ?_⟩
      obtain same | same := rows <;> rw [same]
      rfl
  | beginning internal calls rows =>
      refine ⟨Command.isExecution_of_internal internal, ?_⟩
      obtain same | same := rows <;> rw [same]
      · exact Or.inl rfl
      · exact Or.inr (Or.inl rfl)
  | compensating within =>
      cases within with
      | calling before compensated rest split events failures passes issued called =>
          exact ⟨by rw [issued]; rfl, passed passes⟩
      | recording before compensated rest split events more failures result passes outcome internal
          called =>
          exact ⟨Command.isExecution_of_internal internal, passed passes⟩
  | ending events compensated failures all internal calls rows =>
      refine ⟨Command.isExecution_of_internal internal, ?_⟩
      obtain same | same := rows <;> rw [same]
      · exact passed all
      · exact rollbackStatus_shown _ failures

/-- A failed step shows the listed moments and ends rolled back. -/
theorem failStep_ensures (connectors : Connectors κ) {session : Session Rows κ}
    (empty : session.pending = []) (actor : String) (steps : List RotationStep)
    (rotation : Rotation) (step : RotationStep) (result : StepResult) :
    (failStep session.db.rotation.id session.db.rotation.workspaceId actor steps rotation step
        result session.clock).Ensures (Session.answer connectors) session
      (Undoes connectors actor session rotation steps step result.error)
      fun _ final => ∃ events rows, RolledBack connectors actor session.db rotation steps step
        result.error session.clock events rows ∧ Reaches session rows events final := by
  rw [failStep_eq, rollback_eq]
  have records := recordFailed_transacts connectors empty actor step result session.clock
  refine (Program.Ensures.mono records
    (fun _ quiet => .failing quiet.internal quiet.calls quiet.rows) fun _ _ ends => ends).bind ?_
  intro _ failed given
  obtain ⟨reaches, _⟩ := given
  have begins := beginRollback_transacts connectors reaches.pending actor step.idx
  rw [reaches.db, reaches.clock] at begins
  refine (Program.Ensures.mono begins (fun _ quiet => .beginning quiet.internal
    (by simpa [reaches.calls] using quiet.calls) quiet.rows) fun _ _ ends => ends).bind ?_
  intro _ begun given
  have opened := reaches.trans given.reaches
  apply Program.ensures_perform_bind (.beginning rfl (by simpa using opened.calls)
    (Or.inr opened.db))
  rw [Session.answer_now, opened.clock]
  have called : begun.calls = session.calls := by simpa using opened.calls
  have loop := compensateSteps_ensures connectors rotation session.clock (stepsToCompensate steps)
    opened.pending
  rw [opened.db, called] at loop
  apply (loop.mono (fun _ inside => .compensating inside) fun _ _ ends => ends).bind
  intro failures compensated given
  obtain ⟨events, rows, all, ends⟩ := given
  have whole := opened.trans ends
  rw [List.nil_append, List.nil_append] at whole
  have closing := endRollback_transacts connectors ends.pending actor failures
  rw [ends.db, whole.clock] at closing
  have same : rows.rotation.id = session.db.rotation.id ∧
      rows.rotation.workspaceId = session.db.rotation.workspaceId := by
    rw [all.rotation_eq]
    exact ⟨rfl, rfl⟩
  rw [same.1, same.2] at closing
  apply Program.Ensures.mono closing
  · intro moment quiet
    exact .ending events rows failures all quiet.internal (quiet.calls.trans whole.calls) quiet.rows
  · intro _ final commits
    have last := whole.trans commits.reaches
    rw [List.append_nil] at last
    exact ⟨events, _, ⟨rows, failures, all, rfl⟩, last⟩

/-- A start records no step as done. -/
theorem startStep_issues (rotationId workspaceId : Uuid) (actor : String) (rotation : Rotation)
    (step : RotationStep) :
    (startStep rotationId workspaceId actor rotation step).Issues (·.recordsDone = none) := by
  unfold startStep
  split <;> simp [Command.recordsDone]

/-- A finished step records itself only. -/
theorem finishStep_issues (rotationId workspaceId : Uuid) (actor : String)
    (steps : List RotationStep) (step : RotationStep) (result : StepResult) (time : Time) :
    (finishStep rotationId workspaceId actor steps step result time).Issues
      fun issued => ∀ stepId, issued.recordsDone = some stepId → stepId = step.id := by
  rw [finishStep_eq]
  refine Program.issues_bind ?_ fun _ => ?_
  · cases saved : result.newSecretRef <;>
      simp [recordFinished, saveNewSecretRef, saved, Command.recordsDone]
  · split <;> simp [completeRotation, Command.recordsDone]

/-- A rollback records no step as done. -/
theorem rollback_issues (rotationId workspaceId : Uuid) (actor : String) (failedIdx : Int)
    (steps : List RotationStep) (rotation : Rotation) :
    (rollback rotationId workspaceId actor failedIdx steps rotation).Issues
      (·.recordsDone = none) := by
  have undone (result : StepResult) :
      (if result.status = .compensated then StepStatus.compensated else .failed) ≠ .done := by
    split <;> simp
  have passes := @compensateSteps_issues (·.recordsDone = none) rotation (fun _ => rfl)
    (by simp [compensationPatch, Command.recordsDone, undone]) rfl
  rw [rollback_eq]
  refine Program.issues_bind ?_ fun _ => Program.issues_bind ?_ fun time =>
    Program.issues_bind (passes time _) fun failures => ?_
  · simp [beginRollback, Command.recordsDone]
  · simp [Command.recordsDone]
  · simp [endRollback, Command.recordsDone]

theorem failStep_issues (rotationId workspaceId : Uuid) (actor : String)
    (steps : List RotationStep) (rotation : Rotation) (step : RotationStep) (result : StepResult)
    (time : Time) :
    (failStep rotationId workspaceId actor steps rotation step result time).Issues
      (·.recordsDone = none) := by
  rw [failStep_eq]
  refine Program.issues_bind ?_ fun _ => rollback_issues _ _ _ _ _ _
  simp [recordFailed, Command.recordsDone]

/-- The engine records the outcome of an executor. -/
def recordOutcome (rotationId workspaceId : Uuid) (actor : String) (steps : List RotationStep)
    (rotation : Rotation) (step : RotationStep) (result : StepResult) :
    RotationProgram EngineResult := do
  let time : Time ← now
  if result.status = .done then
    finishStep rotationId workspaceId actor steps step result time
  else
    failStep rotationId workspaceId actor steps rotation step result time

theorem runStep_eq (rotationId workspaceId : Uuid) (actor : String) (steps : List RotationStep)
    (rotation : Rotation) (step : RotationStep) :
    runStep rotationId workspaceId actor steps rotation step = (do
      startStep rotationId workspaceId actor rotation step
      let result ← callExecuteStep step rotation
      recordOutcome rotationId workspaceId actor steps rotation step result) := rfl

/-- These are the moments of an engine call that runs a step. -/
inductive StepMoment (connectors : Connectors κ) (actor : String) (session : Session Rows κ)
    (step : RotationStep) (moment : Moment Command Command.Reply (Session Rows κ)) : Prop where
  | starting (internal : moment.issued.isInternal = true)
      (unrecorded : moment.issued.recordsDone = none) (calls : moment.state.calls = session.calls)
      (rows : Either session.db (session.db.started actor step session.clock) moment.state.db)
  | executing (issued : moment.issued = .executeStep step session.db.rotation)
      (calls : moment.state.calls = session.calls)
      (rows : moment.state.db = session.db.started actor step session.clock)
  | finishing (done : (session.outcome connectors step session.db.rotation).status = .done)
      (internal : moment.issued.isInternal = true)
      (records : ∀ stepId, moment.issued.recordsDone = some stepId → stepId = step.id)
      (calls : moment.state.calls =
        session.calls ++ session.outcomeEvents connectors step session.db.rotation)
      (rows : Either (session.db.started actor step session.clock)
          ((session.db.started actor step session.clock).finished actor step
            (session.outcome connectors step session.db.rotation).newSecretRef session.clock)
          moment.state.db ∨
        moment.state.db = (session.db.started actor step session.clock).afterFinish actor
          session.db.ordered step
          (session.outcome connectors step session.db.rotation).newSecretRef session.clock)
  | failing (failed : (session.outcome connectors step session.db.rotation).status ≠ .done)
      (execution : moment.issued.isExecution = false)
      (unrecorded : moment.issued.recordsDone = none)
      (status : RollbackStatus step.kind.toStatus moment.state.db.rotation.status)

/-- These are the ends of an engine call that runs a step. -/
inductive StepEnd (connectors : Connectors κ) (actor : String) (session : Session Rows κ)
    (step : RotationStep) (final : Session Rows κ) : Prop where
  | finished (done : (session.outcome connectors step session.db.rotation).status = .done)
      (ends : Reaches session
        ((session.db.started actor step session.clock).afterFinish actor session.db.ordered step
          (session.outcome connectors step session.db.rotation).newSecretRef session.clock)
        (session.outcomeEvents connectors step session.db.rotation) final)
  | rolledBack (failed : (session.outcome connectors step session.db.rotation).status ≠ .done)
      (later : List ConnectorEvent) (rows : Rows)
      (undone : RolledBack connectors actor (session.db.started actor step session.clock)
        session.db.rotation session.db.ordered step
        (session.outcome connectors step session.db.rotation).error session.clock later rows)
      (ends : Reaches session rows
        (session.outcomeEvents connectors step session.db.rotation ++ later) final)

section Started

variable (rows : Rows) (actor : String) (step : RotationStep) (time : Time)

@[simp] theorem Rows.started_id : (rows.started actor step time).rotation.id = rows.rotation.id := by
  unfold Rows.started
  split <;> rfl

@[simp] theorem Rows.started_workspaceId :
    (rows.started actor step time).rotation.workspaceId = rows.rotation.workspaceId := by
  unfold Rows.started
  split <;> rfl

@[simp] theorem Rows.started_steps : (rows.started actor step time).steps = rows.steps := by
  unfold Rows.started
  split <;> rfl

theorem Rows.started_ordered : (rows.started actor step time).ordered = rows.ordered := by
  rw [Rows.ordered, Rows.started_steps, Rows.ordered]

/-- A started step shows its kind in the rotation status. -/
@[simp] theorem Rows.started_status :
    (rows.started actor step time).rotation.status = step.kind.toStatus := by
  unfold Rows.started
  split
  · rfl
  · rename_i shown
    exact not_not.mp shown

end Started

section Ends

variable (connectors : Connectors κ) {session executed : Session Rows κ} (actor : String)
  (step : RotationStep)
  (whole : Reaches session (session.db.started actor step session.clock)
    (session.outcomeEvents connectors step session.db.rotation) executed)

include whole

/-- A step whose executor returned done ends finished. -/
theorem finishStep_stepEnd
    (done : (session.outcome connectors step session.db.rotation).status = .done) :
    (finishStep session.db.rotation.id session.db.rotation.workspaceId actor session.db.ordered step
        (session.outcome connectors step session.db.rotation) session.clock).Ensures
      (Session.answer connectors) executed (StepMoment connectors actor session step)
      fun _ final => StepEnd connectors actor session step final := by
  have ends := Program.Ensures.footprint
    (finishStep_transacts connectors actor whole.pending session.db.ordered step
      (session.outcome connectors step session.db.rotation))
    (finishStep_issues _ _ actor session.db.ordered step _ _)
  rw [whole.db, whole.clock, Rows.started_id, Rows.started_workspaceId] at ends
  exact ends.mono
    (fun moment both => .finishing done both.1.internal both.2 (both.1.calls.trans whole.calls)
      both.1.rows)
    fun _ _ commits => .finished done (by simpa using whole.trans commits.reaches)

/-- A step whose executor failed ends rolled back. -/
theorem failStep_stepEnd
    (failed : (session.outcome connectors step session.db.rotation).status ≠ .done) :
    (failStep session.db.rotation.id session.db.rotation.workspaceId actor session.db.ordered
        session.db.rotation step (session.outcome connectors step session.db.rotation)
        session.clock).Ensures
      (Session.answer connectors) executed (StepMoment connectors actor session step)
      fun _ final => StepEnd connectors actor session step final := by
  have ends := Program.Ensures.footprint
    (failStep_ensures connectors whole.pending actor session.db.ordered session.db.rotation step
      (session.outcome connectors step session.db.rotation))
    (failStep_issues _ _ actor session.db.ordered session.db.rotation step _ _)
  rw [whole.db, Rows.started_id, Rows.started_workspaceId, whole.clock] at ends
  apply ends.mono
  · intro moment both
    have shown := both.1.shown
    rw [whole.db, Rows.started_status] at shown
    exact .failing failed shown.execution both.2 shown.rotation
  · intro _ final given
    obtain ⟨later, rows, undone, last⟩ := given
    exact .rolledBack failed later rows undone (whole.trans last)

end Ends

/-- A step that runs ends finished or rolled back. -/
theorem runStep_ensures (connectors : Connectors κ) {session : Session Rows κ}
    (empty : session.pending = []) (actor : String) (step : RotationStep) :
    (runStep session.db.rotation.id session.db.rotation.workspaceId actor session.db.ordered
        session.db.rotation step).Ensures (Session.answer connectors) session
      (StepMoment connectors actor session step)
      fun _ final => StepEnd connectors actor session step final := by
  have starting := Program.Ensures.footprint (startStep_transacts connectors actor empty step)
    (startStep_issues _ _ actor session.db.rotation step)
  refine (starting.mono (fun moment both => .starting both.1.internal both.2 both.1.calls
    both.1.rows) fun _ _ ends => ends).bind ?_
  intro _ started given
  obtain ⟨reaches, external⟩ := given
  have calls : started.calls = session.calls := by rw [reaches.calls, List.append_nil]
  have outcome := Session.outcome_congr connectors step session.db.rotation external
  have events := Session.outcomeEvents_congr connectors step session.db.rotation external
  obtain ⟨reply, executes⟩ := started.answer_executeStep_reaches connectors reaches.pending step
    session.db.rotation
  apply Program.ensures_perform_bind (.executing rfl calls reaches.db)
  rw [outcome] at reply
  rw [reply]
  rw [events, reaches.db] at executes
  have whole := reaches.trans executes
  rw [List.nil_append] at whole
  generalize (started.answer connectors (.executeStep step session.db.rotation)).2 = executed at *
  by_cases done : (session.outcome connectors step session.db.rotation).status = .done
  · refine Program.ensures_perform_bind
      (.finishing done rfl (by simp [Command.recordsDone]) whole.calls (Or.inl (Or.inl whole.db))) ?_
    rw [if_pos done]
    change (finishStep _ _ _ _ _ _ executed.clock).Ensures _ executed _ _
    rw [whole.clock]
    exact finishStep_stepEnd connectors actor step whole done
  · refine Program.ensures_perform_bind
      (.failing done rfl rfl (Or.inl (by rw [whole.db, Rows.started_status]))) ?_
    rw [if_neg done]
    change (failStep _ _ _ _ _ _ _ executed.clock).Ensures _ executed _ _
    rw [whole.clock]
    exact failStep_stepEnd connectors actor step whole done

/-- The plan has expired and nobody has moved the rotation on. -/
def Rotation.expired (rotation : Rotation) (time : Time) : Bool :=
  match rotation.planExpiresAt with
  | none => false
  | some expires => rotation.status = .pendingApproval && expires < time

/-- An engine call works on the steps of a live rotation. -/
structure Live (rows : Rows) (time : Time) : Prop where
  active : rows.rotation.status.isTerminal = false
  unexpired : rows.rotation.expired time = false

/-- These calls write nothing. -/
inductive Idles (rows : Rows) (time : Time) : Prop where
  | terminal (ended : rows.rotation.status.isTerminal = true)
  | empty (live : Live rows time) (none : rows.steps = [])
  | stuck (live : Live rows time) (none : rows.nextStep = none)
      (unfinished : ∃ step ∈ rows.steps, step.status ≠ .done)

/-- These calls change the rotation status only. -/
inductive Settles (rows : Rows) (actor : String) (time : Time) : Rows → Prop where
  | expired (active : rows.rotation.status.isTerminal = false)
      (late : rows.rotation.expired time = true) :
      Settles rows actor time ((rows.withStatus .needsReplan time).audited actor
        "rotation.plan_expired" (some [statusField rows.rotation.status])
        (some [statusField .needsReplan]))
  | completed (live : Live rows time) (some : rows.steps ≠ [])
      (finished : ∀ step ∈ rows.steps, step.status = .done) :
      Settles rows actor time (rows.completed actor rows.rotation.status time)
  | paused (live : Live rows time) (step : RotationStep) (next : rows.nextStep = some step)
      (flagged : step.requiresConfirmation = true)
      (unpaused : rows.rotation.status ≠ .awaitingConfirmation) :
      Settles rows actor time ((rows.withStatus .awaitingConfirmation time).audited actor
        "rotation.awaiting_confirmation" (some [statusField rows.rotation.status])
        (some [statusField .awaitingConfirmation, ("waiting_on_step", .int step.idx)]))
  | blocked (live : Live rows time) (step : RotationStep) (next : rows.nextStep = some step)
      (passed : step.requiresConfirmation = true →
        rows.rotation.status = .awaitingConfirmation)
      (revoke : step.kind = .revoke)
      (incomplete : rows.answer (.incompleteVerify rows.rotation.id) ≠ 0) :
      Settles rows actor time (rows.withStatus .awaitingConfirmation time)

/-- Only a rotation that is not terminal settles. -/
theorem Settles.active {rows after : Rows} {actor : String} {time : Time}
    (settles : Settles rows actor time after) : rows.rotation.status.isTerminal = false := by
  cases settles with
  | expired active late => exact active
  | completed live some finished => exact live.active
  | paused live step next flagged unpaused => exact live.active
  | blocked live step next passed revoke incomplete => exact live.active

/-- A settled rotation keeps its steps. -/
theorem Settles.steps {rows after : Rows} {actor : String} {time : Time}
    (settles : Settles rows actor time after) : after.steps = rows.steps := by
  cases settles <;> rfl

/-- These calls run the next step. -/
structure Executes (rows : Rows) (time : Time) (step : RotationStep) : Prop where
  live : Live rows time
  next : rows.nextStep = some step
  passed : step.requiresConfirmation = true → rows.rotation.status = .awaitingConfirmation
  verified : step.kind = .revoke → rows.answer (.incompleteVerify rows.rotation.id) = 0

theorem Rows.nextStep_of_nil {rows : Rows} (none : rows.steps = []) (step : RotationStep) :
    rows.nextStep ≠ some step := by
  intro next
  have inside := (Rows.nextStep_eq_some next).1
  rw [none] at inside
  exact List.not_mem_nil inside

/-- A call that meets a next step is not idle. -/
theorem Idles.not_of_next {rows : Rows} {time : Time} {step : RotationStep}
    (active : rows.rotation.status.isTerminal = false) (next : rows.nextStep = some step) :
    ¬ Idles rows time := by
  intro idles
  cases idles with
  | terminal ended => exact absurd (active.symm.trans ended) (by simp)
  | empty live none => exact Rows.nextStep_of_nil none step next
  | stuck live none unfinished => exact absurd (next.symm.trans none) (by simp)

theorem Executes.not_idles {rows : Rows} {time : Time} {step : RotationStep}
    (executes : Executes rows time step) : ¬ Idles rows time :=
  Idles.not_of_next executes.live.active executes.next

/-- A call that runs a step does not settle the rotation. -/
theorem Executes.not_settles {rows after : Rows} {actor : String} {time : Time}
    {step : RotationStep} (executes : Executes rows time step) : ¬ Settles rows actor time after := by
  intro settles
  cases settles with
  | expired active late => exact absurd (executes.live.unexpired.symm.trans late) (by simp)
  | completed live some finished =>
      obtain ⟨inside, pending, _⟩ := Rows.nextStep_eq_some executes.next
      exact absurd (pending.symm.trans (finished step inside)) (by simp)
  | paused live other next flagged unpaused =>
      obtain rfl : step = other := Option.some.inj (executes.next.symm.trans next)
      exact unpaused (executes.passed flagged)
  | blocked live other next passed revoke incomplete =>
      obtain rfl : step = other := Option.some.inj (executes.next.symm.trans next)
      exact incomplete (executes.verified revoke)

/-- A moment that only reads. -/
structure Reading (session : Session Rows κ)
    (moment : Moment Command Command.Reply (Session Rows κ)) : Prop where
  internal : moment.issued.isInternal = true
  unrecorded : moment.issued.recordsDone = none
  state : moment.state = session

/-- These are the moments of an engine call. -/
inductive EngineMoment (connectors : Connectors κ) (actor : String) (session : Session Rows κ)
    (moment : Moment Command Command.Reply (Session Rows κ)) : Prop where
  | reading (internal : moment.issued.isInternal = true)
      (unrecorded : moment.issued.recordsDone = none) (state : moment.state = session)
  | settling (after : Rows) (settles : Settles session.db actor session.clock after)
      (internal : moment.issued.isInternal = true)
      (unrecorded : moment.issued.recordsDone = none) (calls : moment.state.calls = session.calls)
      (rows : Either session.db after moment.state.db)
  | running (step : RotationStep) (executes : Executes session.db session.clock step)
      (inside : StepMoment connectors actor session step moment)

/-- These are the ends of an engine call. -/
inductive EngineEnd (connectors : Connectors κ) (actor : String) (session : Session Rows κ)
    (final : Session Rows κ) : Prop where
  | idle (idles : Idles session.db session.clock) (ends : Reaches session session.db [] final)
  | settled (after : Rows) (settles : Settles session.db actor session.clock after)
      (ends : Reaches session after [] final)
  | ran (step : RotationStep) (executes : Executes session.db session.clock step)
      (ends : StepEnd connectors actor session step final)

/-- An engine call touches neither the queue nor the locks, and it commits what it writes. -/
theorem EngineEnd.reaches {connectors : Connectors κ} {actor : String}
    {session final : Session Rows κ} (ends : EngineEnd connectors actor session final) :
    ∃ rows events, Reaches session rows events final := by
  cases ends with
  | idle idles ends => exact ⟨_, _, ends⟩
  | settled after settles ends => exact ⟨_, _, ends⟩
  | ran step executes ends =>
      cases ends with
      | finished done ends => exact ⟨_, _, ends⟩
      | rolledBack failed later rows undone ends => exact ⟨_, _, ends⟩

theorem Reading.engineMoment {connectors : Connectors κ} {actor : String}
    {session : Session Rows κ} {moment : Moment Command Command.Reply (Session Rows κ)}
    (reading : Reading session moment) : EngineMoment connectors actor session moment :=
  .reading reading.internal reading.unrecorded reading.state

theorem planExpired_ensures (connectors : Connectors κ) (session : Session Rows κ)
    (rotation : Rotation) :
    (planExpired rotation).Ensures (Session.answer connectors) session (Reading session)
      fun late final => late = rotation.expired session.clock ∧ final = session := by
  unfold planExpired Rotation.expired
  cases rotation.planExpiresAt with
  | none => exact Program.ensures_pure ⟨rfl, rfl⟩
  | some expires =>
      by_cases unapproved : rotation.status = .pendingApproval
      · simp only [unapproved, if_true]
        exact Program.ensures_perform_bind ⟨rfl, rfl, rfl⟩ (Program.ensures_pure ⟨rfl, rfl⟩)
      · simp only [unapproved, if_false]
        exact Program.ensures_pure ⟨by simp, rfl⟩

/-- The expiry check reads the clock only. -/
theorem planExpired_issues {allowed : Command → Prop} (clock : allowed .now) (rotation : Rotation) :
    (planExpired rotation).Issues allowed := by
  unfold planExpired
  split
  · trivial
  · split
    · exact ⟨clock, fun _ => trivial⟩
    · trivial

/-- The gates of a revoke step ask for the unfinished verify steps only. -/
theorem revokeGates_issues {allowed : Command → Prop} {rotationId : Uuid}
    (reads : allowed (.select (.incompleteVerify rotationId))) (rotation : Rotation)
    (step : RotationStep) : (revokeGates rotationId rotation step).Issues allowed := by
  unfold revokeGates
  split
  · refine Program.issues_bind ?_ fun verdict => by cases verdict <;> trivial
    unfold verifyGate
    refine ⟨reads, fun count => ?_⟩
    change Program.Issues allowed (if (count : Nat) > 0 then _ else _)
    split <;> trivial
  · trivial

/-- A transaction of the engine settles the rotation. -/
theorem Transacts.settles {α : Type} {connectors : Connectors κ} {program : RotationProgram α}
    {session : Session Rows κ} {actor : String} {after : Rows}
    (holds : Transacts connectors program session (Either session.db after) after)
    (settles : Settles session.db actor session.clock after)
    (every : program.Issues (·.recordsDone = none)) :
    program.Ensures (Session.answer connectors) session (EngineMoment connectors actor session)
      fun _ final => EngineEnd connectors actor session final :=
  (Program.Ensures.footprint holds every).mono
    (fun _ both => .settling after settles both.1.internal both.2 both.1.calls both.1.rows)
    fun _ _ commits => .settled after settles commits.reaches

/-- The engine reads the verify rows before it works on a revoke step. -/
theorem revokeGates_ensures (connectors : Connectors κ) {session : Session Rows κ}
    (empty : session.pending = []) (step : RotationStep) :
    (revokeGates session.db.rotation.id session.db.rotation step).Ensures
      (Session.answer connectors) session (Reading session)
      fun verdict final => final = session ∧
        ((verdict = .ok () ∧
          (step.kind = .revoke → session.db.answer (.incompleteVerify session.db.rotation.id) = 0)) ∨
        ∃ blocked, verdict = .error blocked ∧ blocked.rotationStatus = .awaitingConfirmation ∧
          step.kind = .revoke ∧
          session.db.answer (.incompleteVerify session.db.rotation.id) ≠ 0) := by
  unfold revokeGates
  by_cases revoke : step.kind = .revoke
  · rw [if_pos revoke]
    unfold verifyGate
    rw [bind_assoc]
    apply Program.ensures_perform_bind ⟨rfl, rfl, rfl⟩
    have answered : (session.answer connectors
        (.select (.incompleteVerify session.db.rotation.id))) =
          (session.db.answer (.incompleteVerify session.db.rotation.id), session) := by
      simp [empty]
      rfl
    rw [answered]
    by_cases incomplete : session.db.answer (.incompleteVerify session.db.rotation.id) > 0
    · simp only [incomplete, if_true]
      exact Program.ensures_pure
        ⟨rfl, Or.inr ⟨_, rfl, rfl, revoke, Nat.pos_iff_ne_zero.mp incomplete⟩⟩
    · simp only [incomplete, if_false]
      refine Program.ensures_pure ⟨rfl, Or.inl ⟨coverageGate_confirmed _, fun _ => ?_⟩⟩
      exact Nat.eq_zero_of_not_pos incomplete
  · rw [if_neg revoke]
    exact Program.ensures_pure ⟨rfl, Or.inl ⟨rfl, fun same => absurd same revoke⟩⟩

theorem advanceSteps_ensures (connectors : Connectors κ) (actor : String)
    {session : Session Rows κ} (empty : session.pending = [])
    (live : Live session.db session.clock) :
    (advanceSteps session.db.rotation.id session.db.rotation.workspaceId actor session.db.rotation
        session.db.ordered).Ensures (Session.answer connectors) session
      (EngineMoment connectors actor session)
      fun _ final => EngineEnd connectors actor session final := by
  unfold advanceSteps
  by_cases absent : session.db.steps = []
  · have noRows : session.db.ordered.isEmpty = true := by simp [Rows.ordered, absent]
    rw [if_pos noRows]
    exact Program.ensures_pure (.idle (.empty live absent) (Reaches.refl empty))
  · have someRows : ¬ session.db.ordered.isEmpty = true := by
      rw [List.isEmpty_iff, ← List.length_eq_zero_iff, Rows.ordered, List.length_insertionSort,
        List.length_eq_zero_iff]
      exact absent
    rw [if_neg someRows]
    have loaded : findNextStep session.db.ordered = session.db.nextStep := rfl
    rw [loaded]
    cases next : session.db.nextStep with
    | none =>
        by_cases finished : ∀ step ∈ session.db.steps, step.status = .done
        · have all : (session.db.ordered.all fun step => step.status = .done) = true := by
            simpa using finished
          simp only [all, if_true]
          exact (completeRotation_transacts connectors actor empty _ _).settles
            (.completed live absent finished) (by simp [completeRotation, Command.recordsDone])
        · have all : ¬ (session.db.ordered.all fun step => step.status = .done) = true := by
            simpa using finished
          simp only [all]
          simp only [not_forall] at finished
          obtain ⟨step, inside, unfinished⟩ := finished
          exact Program.ensures_pure
            (.idle (.stuck live next ⟨step, inside, unfinished⟩) (Reaches.refl empty))
    | some step =>
        by_cases held : step.requiresConfirmation = true ∧
            session.db.rotation.status ≠ .awaitingConfirmation
        · simp only [if_pos held]
          exact (awaitConfirmation_transacts connectors actor empty _ step).settles
            (.paused live step next held.1 held.2)
            (by simp [awaitConfirmation, Command.recordsDone])
        · simp only [if_neg held]
          have passed : step.requiresConfirmation = true →
              session.db.rotation.status = .awaitingConfirmation := by
            intro flagged
            by_contra unpaused
            exact held ⟨flagged, unpaused⟩
          apply ((revokeGates_ensures connectors empty step).mono
            (fun _ reading => reading.engineMoment) fun _ _ given => given).bind
          intro verdict reached given
          obtain ⟨same, ⟨rfl, verified⟩ | ⟨blocked, rfl, waits, revoke, incomplete⟩⟩ := given
          · rw [same]
            have executes : Executes session.db session.clock step := ⟨live, next, passed, verified⟩
            exact (runStep_ensures connectors empty actor step).mono
              (fun _ inside => .running step executes inside)
              fun _ _ ends => .ran step executes ends
          · have transacts := blockRevoke_transacts connectors empty step blocked
            rw [waits] at transacts
            rw [same]
            exact transacts.settles (.blocked live step next passed revoke incomplete)
              (by simp [blockRevoke, Command.recordsDone])

/-- The engine loads its rotation. -/
theorem Session.answer_rotation_self (session : Session Rows κ) (connectors : Connectors κ)
    (empty : session.pending = []) :
    session.answer connectors
      (.select (.rotation session.db.rotation.id session.db.rotation.workspaceId)) =
        (some session.db.rotation, session) := by
  rw [Session.answer_select, Session.view_of_pending_nil session empty]
  exact congrArg (·, session) session.db.answer_rotation

/-- The engine loads the steps of its rotation. -/
theorem Session.answer_steps_self (session : Session Rows κ) (connectors : Connectors κ)
    (empty : session.pending = []) :
    session.answer connectors (.select (.steps session.db.rotation.id)) =
      (session.db.ordered, session) := by
  rw [Session.answer_select, Session.view_of_pending_nil session empty]
  exact congrArg (·, session) session.db.answer_steps

/-- An engine call on its own rotation is idle, settles the rotation or runs the next step. -/
theorem advanceRotation_ensures (connectors : Connectors κ) (actor : String)
    {session : Session Rows κ} (empty : session.pending = []) :
    (advanceRotation session.db.rotation.id session.db.rotation.workspaceId actor).Ensures
      (Session.answer connectors) session (EngineMoment connectors actor session)
      fun _ final => EngineEnd connectors actor session final := by
  unfold advanceRotation
  apply Program.ensures_perform_bind (.reading rfl rfl rfl)
  rw [session.answer_rotation_self connectors empty]
  cases ended : session.db.rotation.status.isTerminal with
  | true =>
      simp only [ended, if_true]
      exact Program.ensures_pure (.idle (.terminal ended) (Reaches.refl empty))
  | false =>
      simp only [ended, Bool.false_eq_true, if_false]
      apply ((planExpired_ensures connectors session session.db.rotation).mono
        (fun _ reading => reading.engineMoment) fun _ _ given => given).bind
      intro _ reached given
      obtain ⟨rfl, same⟩ := given
      rw [same]
      cases late : session.db.rotation.expired session.clock with
      | true =>
          rw [if_pos rfl]
          exact (expirePlan_transacts connectors actor empty _).settles (.expired ended late)
            (by simp [expirePlan, Command.recordsDone])
      | false =>
          rw [if_neg Bool.false_ne_true]
          apply Program.ensures_perform_bind (.reading rfl rfl rfl)
          rw [session.answer_steps_self connectors empty]
          exact advanceSteps_ensures connectors actor empty ⟨ended, late⟩

/-- An engine call that works on the next step leads into the run of that step. -/
theorem advanceRotation_leads (connectors : Connectors κ) (actor : String)
    {session : Session Rows κ} (empty : session.pending = []) {step : RotationStep}
    (executes : Executes session.db session.clock step) :
    Program.Leads (Session.answer connectors) (Reading session)
      (advanceRotation session.db.rotation.id session.db.rotation.workspaceId actor) session
      (runStep session.db.rotation.id session.db.rotation.workspaceId actor session.db.ordered
        session.db.rotation step) session := by
  unfold advanceRotation
  refine Program.leads_bind (session.answer_rotation_self connectors empty)
    (List.forall_mem_singleton.mpr ⟨rfl, rfl, rfl⟩) ?_
  simp only [executes.live.active, Bool.false_eq_true, if_false]
  have expiry := planExpired_ensures connectors session session.db.rotation
  obtain ⟨late, same⟩ := expiry.final
  refine Program.leads_bind (Prod.ext (late.trans executes.live.unexpired) same) expiry.moments ?_
  rw [if_neg Bool.false_ne_true]
  refine Program.leads_bind (session.answer_steps_self connectors empty)
    (List.forall_mem_singleton.mpr ⟨rfl, rfl, rfl⟩) ?_
  have someRows : ¬ session.db.ordered.isEmpty = true := by
    intro none
    have present := session.db.mem_ordered.mpr (Rows.nextStep_eq_some executes.next).1
    rw [List.isEmpty_iff.mp none] at present
    exact absurd present List.not_mem_nil
  unfold advanceSteps
  rw [if_neg someRows]
  have loaded : findNextStep session.db.ordered = some step := executes.next
  rw [loaded]
  have held : ¬ (step.requiresConfirmation = true ∧
      session.db.rotation.status ≠ .awaitingConfirmation) :=
    fun both => both.2 (executes.passed both.1)
  simp only [if_neg held]
  have gates := revokeGates_ensures connectors empty step
  obtain ⟨reached, verdict | ⟨blocked, _, _, revoke, incomplete⟩⟩ := gates.final
  · exact Program.leads_bind (Prod.ext verdict.1 reached) gates.moments Program.Leads.refl
  · exact absurd (executes.verified revoke) incomplete

theorem runStep_executes (connectors : Connectors κ) (actor : String) (session : Session Rows κ)
    (step : RotationStep) :
    ∃ moment ∈ (runStep session.db.rotation.id session.db.rotation.workspaceId actor
        session.db.ordered session.db.rotation step).trace (Session.answer connectors) session,
      moment.issued = .executeStep step session.db.rotation := by
  unfold runStep
  rw [Program.trace_bind]
  exact ⟨_, List.mem_append_right _ List.mem_cons_self, rfl⟩

/-- An engine call that works on the next step runs its executor. -/
theorem advanceRotation_executes (connectors : Connectors κ) (actor : String)
    {session : Session Rows κ} (empty : session.pending = []) {step : RotationStep}
    (executes : Executes session.db session.clock step) :
    ∃ moment ∈ (advanceRotation session.db.rotation.id session.db.rotation.workspaceId
        actor).trace (Session.answer connectors) session,
      moment.issued = .executeStep step session.db.rotation := by
  obtain ⟨moment, inside, issued⟩ := runStep_executes connectors actor session step
  obtain ⟨before, _, split⟩ := (advanceRotation_leads connectors actor empty executes).trace
  rw [split]
  exact ⟨moment, List.mem_append_right _ inside, issued⟩

end Sprawl
