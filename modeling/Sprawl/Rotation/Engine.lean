/-
This file gives the rotation engine: `advance_rotation` and its rollback.
-/

import Sprawl.Rotation.Gate

namespace Sprawl

/-- This is the return value of `advance_rotation`. -/
structure EngineResult where
  rotationStatus : String
  nextStepIdx : Option Int := none
  shouldContinue : Bool := false
  message : String := ""
  error : Option String := none
  deriving DecidableEq, Repr

/-- This is `_set_rotation_status`. -/
def setRotationStatus (rotationId workspaceId : Uuid) (status : RotationStatus) :
    RotationProgram Unit := do
  let time : Time ← now
  write (.rotationStatus rotationId (some workspaceId) status time)

/-- This is `_find_next_step`: the step of lowest index that is still pending. -/
def findNextStep (steps : List RotationStep) : Option RotationStep :=
  (steps.insertionSort byIdx).find? fun step => step.status = .pending

def statusField (status : RotationStatus) : String × Json := ("status", .str status.value)

def rotationField (rotationId : Uuid) : String × Json := ("rotation_id", .uuid rotationId)

/-- The plan has expired before anyone approved it. -/
def planExpired (rotation : Rotation) : RotationProgram Bool :=
  match rotation.planExpiresAt with
  | none => return false
  | some expires =>
      if rotation.status = .pendingApproval then do
        let time : Time ← now
        return expires < time
      else return false

/-- An expired plan needs a new plan. -/
def expirePlan (rotationId workspaceId : Uuid) (actor : String) (rotation : Rotation) :
    RotationProgram EngineResult := do
  setRotationStatus rotationId workspaceId .needsReplan
  auditRotation workspaceId actor "rotation.plan_expired" rotationId
    (some [statusField rotation.status]) (some [statusField .needsReplan])
  commit
  publish workspaceId "rotation.plan_expired" [rotationField rotationId]
  return { rotationStatus := "needs_replan", message := "Plan TTL exceeded" }

/-- The engine marks a rotation complete at two places that differ in their message only. -/
def completeRotation (rotationId workspaceId : Uuid) (actor : String) (before : RotationStatus)
    (message : String) : RotationProgram EngineResult := do
  setRotationStatus rotationId workspaceId .completed
  auditRotation workspaceId actor "rotation.completed" rotationId
    (some [statusField before]) (some [statusField .completed])
  commit
  publish workspaceId "rotation.completed" [rotationField rotationId]
  return { rotationStatus := "completed", message }

/-- The engine pauses before a step that requires confirmation. -/
def awaitConfirmation (rotationId workspaceId : Uuid) (actor : String) (rotation : Rotation)
    (step : RotationStep) : RotationProgram EngineResult := do
  setRotationStatus rotationId workspaceId .awaitingConfirmation
  auditRotation workspaceId actor "rotation.awaiting_confirmation" rotationId
    (some [statusField rotation.status])
    (some [statusField .awaitingConfirmation, ("waiting_on_step", .int step.idx)])
  commit
  publish workspaceId "rotation.awaiting_confirmation"
    [rotationField rotationId, ("step_idx", .int step.idx), ("step_kind", .str step.kind.value)]
  return {
    rotationStatus := "awaiting_confirmation"
    nextStepIdx := some step.idx
    message := "Step " ++ toString step.idx ++ " (" ++ step.kind.value ++
      ") requires explicit confirmation" }

/-- A revoke step passes the verify gate and then the coverage gate. -/
def revokeGates (rotationId : Uuid) (rotation : Rotation) (step : RotationStep) :
    RotationProgram (Except GateBlockedError Unit) :=
  if step.kind = .revoke then do
    match ← verifyGate rotationId with
    | .error blocked => return .error blocked
    | .ok () => return coverageGate rotation.coverage true
  else return .ok ()

/-- A blocked gate changes the status without an audit entry. -/
def blockRevoke (rotationId workspaceId : Uuid) (step : RotationStep) (blocked : GateBlockedError) :
    RotationProgram EngineResult := do
  setRotationStatus rotationId workspaceId blocked.rotationStatus
  commit
  publish workspaceId "rotation.gate_blocked"
    [rotationField rotationId, ("reason", .str blocked.reason)]
  return {
    rotationStatus := blocked.rotationStatus.value
    nextStepIdx := some step.idx
    message := blocked.message }

/-- The engine shows the running step in the rotation status. -/
def startStep (rotationId workspaceId : Uuid) (actor : String) (rotation : Rotation)
    (step : RotationStep) : RotationProgram Unit :=
  if rotation.status ≠ step.kind.toStatus then do
    setRotationStatus rotationId workspaceId step.kind.toStatus
    auditRotation workspaceId actor ("rotation.step." ++ step.kind.value ++ ".started") rotationId
      (some [statusField rotation.status])
      (some [statusField step.kind.toStatus, ("step_idx", .int step.idx)])
    commit
    publish workspaceId ("rotation.step." ++ step.kind.value ++ ".started")
      [rotationField rotationId, ("step_idx", .int step.idx)]
  else return

/-- A returned reference goes to the rotation row. -/
def saveNewSecretRef (rotationId : Uuid) (time : Time) :
    Option NewSecretRef → RotationProgram Unit
  | some ref => write (.newSecretRef rotationId ref time)
  | none => return

/-- The engine records a finished step. After the last step the rotation is complete. -/
def finishStep (rotationId workspaceId : Uuid) (actor : String) (steps : List RotationStep)
    (step : RotationStep) (result : StepResult) (time : Time) : RotationProgram EngineResult := do
  write (.step step.id { status := some .done, executedAt := some time })
  saveNewSecretRef rotationId time result.newSecretRef
  auditRotation workspaceId actor ("rotation.step." ++ step.kind.value ++ ".done") rotationId
    none (some [("step_idx", .int step.idx), ("kind", .str step.kind.value)])
  commit
  publish workspaceId ("rotation.step." ++ step.kind.value ++ ".done")
    [rotationField rotationId, ("step_idx", .int step.idx)]
  let remaining := steps.filter fun other => step.idx < other.idx && other.status = .pending
  if remaining.isEmpty then
    completeRotation rotationId workspaceId actor step.kind.toStatus
      "Last step done — rotation complete"
  else
    return {
      rotationStatus := step.kind.toStatus.value
      nextStepIdx := some (step.idx + 1)
      shouldContinue := true
      message := "Step " ++ toString step.idx ++ " done — continuing" }

/-- Each pass of the rollback loop compensates one step and commits its row. -/
def compensateSteps (rotation : Rotation) (time : Time) :
    List RotationStep → RotationProgram (List String)
  | [] => return []
  | step :: rest => do
      let result : StepResult ← callCompensateStep step rotation
      let status : StepStatus := if result.status = .compensated then .compensated else .failed
      write (.step step.id
        { status := some status, executedAt := some time, error := some result.error })
      commit
      let failures : List String ← compensateSteps rotation time rest
      return if status = .failed then
        ("step " ++ toString step.idx ++ ": " ++ result.error.getD "None") :: failures
      else failures

/-- The completed steps in reverse order. -/
def stepsToCompensate (steps : List RotationStep) : List RotationStep :=
  ((steps.filter fun step => step.status = .done).insertionSort byIdx).reverse

/-- This is `_rollback`. -/
def rollback (rotationId workspaceId : Uuid) (actor : String) (failedIdx : Int)
    (steps : List RotationStep) (rotation : Rotation) : RotationProgram EngineResult := do
  setRotationStatus rotationId workspaceId .rollingBack
  auditRotation workspaceId actor "rotation.rolling_back" rotationId
    none (some [statusField .rollingBack, ("failed_at_step", .int failedIdx)])
  commit
  publish workspaceId "rotation.rolling_back" [rotationField rotationId]
  let time : Time ← now
  let failures : List String ← compensateSteps rotation time (stepsToCompensate steps)
  let final : RotationStatus := if failures.isEmpty then .rolledBack else .rollbackFailed
  setRotationStatus rotationId workspaceId final
  auditRotation workspaceId actor ("rotation." ++ final.value) rotationId
    none (some [statusField final, ("compensation_failures", .arr (failures.map .str))])
  commit
  publish workspaceId ("rotation." ++ final.value) [rotationField rotationId]
  return {
    rotationStatus := final.value
    error := if failures.isEmpty then none else some ("; ".intercalate failures)
    message := if failures.isEmpty then "Rollback succeeded" else "Rollback partially failed" }

/-- A failed step starts the rollback of the steps before it. -/
def failStep (rotationId workspaceId : Uuid) (actor : String) (steps : List RotationStep)
    (rotation : Rotation) (step : RotationStep) (result : StepResult) (time : Time) :
    RotationProgram EngineResult := do
  write (.step step.id
    { status := some .failed, executedAt := some time, error := some result.error })
  auditRotation workspaceId actor ("rotation.step." ++ step.kind.value ++ ".failed") rotationId
    none (some [("step_idx", .int step.idx), ("error", result.error.elim .null .str)])
  commit
  publish workspaceId ("rotation.step." ++ step.kind.value ++ ".failed")
    [rotationField rotationId, ("step_idx", .int step.idx),
      ("error", result.error.elim .null .str)]
  rollback rotationId workspaceId actor step.idx steps rotation

/-- The engine runs one step and records its outcome. -/
def runStep (rotationId workspaceId : Uuid) (actor : String) (steps : List RotationStep)
    (rotation : Rotation) (step : RotationStep) : RotationProgram EngineResult := do
  startStep rotationId workspaceId actor rotation step
  let result : StepResult ← callExecuteStep step rotation
  let time : Time ← now
  if result.status = .done then
    finishStep rotationId workspaceId actor steps step result time
  else
    failStep rotationId workspaceId actor steps rotation step result time

/-- The engine works on the steps of a rotation that is neither terminal nor expired. -/
def advanceSteps (rotationId workspaceId : Uuid) (actor : String) (rotation : Rotation)
    (steps : List RotationStep) : RotationProgram EngineResult :=
  if steps.isEmpty then
    return {
      rotationStatus := rotation.status.value
      message := "No steps found; rotation may be malformed" }
  else
    match findNextStep steps with
    | none =>
        if steps.all fun step => step.status = .done then
          completeRotation rotationId workspaceId actor rotation.status "All steps completed"
        else
          return { rotationStatus := rotation.status.value, message := "No pending steps" }
    | some step =>
        if step.requiresConfirmation ∧ rotation.status ≠ .awaitingConfirmation then
          awaitConfirmation rotationId workspaceId actor rotation step
        else do
          match ← revokeGates rotationId rotation step with
          | .error blocked => blockRevoke rotationId workspaceId step blocked
          | .ok () => runStep rotationId workspaceId actor steps rotation step

/-- This is `advance_rotation`. -/
def advanceRotation (rotationId workspaceId : Uuid) (actor : String) :
    RotationProgram EngineResult := do
  match ← select (.rotation rotationId workspaceId) with
  | none => return { rotationStatus := "not_found", message := "Rotation not found" }
  | some rotation =>
      if rotation.status.isTerminal then
        return {
          rotationStatus := rotation.status.value
          message := "Already in terminal state" }
      else if ← planExpired rotation then
        expirePlan rotationId workspaceId actor rotation
      else
        let steps : List RotationStep ← select (.steps rotationId)
        advanceSteps rotationId workspaceId actor rotation steps

/-- This is `run_rotation_step`. A job that finds the lock held is dropped. -/
def runRotationStep (job : Job) : RotationProgram EngineResult := do
  let acquired : Bool ← acquireLock job.secretId job.rotationId
  if acquired then do
    let result : EngineResult ← advanceRotation job.rotationId job.workspaceId job.actor
    let _ : Bool ← releaseLock job.secretId job.rotationId
    if result.shouldContinue then do
      enqueueJob job
      return result
    else return result
  else
    return {
      rotationStatus := "lock_not_acquired"
      error := some ("Rotation lock for secret " ++ toString job.secretId ++
        " is held by another job") }

end Sprawl
