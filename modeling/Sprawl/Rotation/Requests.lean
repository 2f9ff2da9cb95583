/-
This file gives the request handlers that change a rotation.
-/

import Sprawl.Rotation.Engine

namespace Sprawl

/-- These are the claims of a decoded token. -/
structure TokenClaims where
  sub : String
  workspaceId : Uuid
  role : String
  deriving DecidableEq, Repr

/-- A handler raises this as an `HTTPException`. -/
structure HttpError where
  statusCode : Nat
  detail : String
  deriving DecidableEq, Repr

/-- A request handler returns a response body or raises. -/
abbrev RequestProgram : Type → Type := ExceptT HttpError RotationProgram

/-- This is the success envelope. -/
def okEnvelope (data : List (String × Json)) : Json := .obj [("ok", .bool true), ("data", .obj data)]

/-- This is the dependency that `require_role` builds. -/
def requireRole (roles : List String) (claims : TokenClaims) : RequestProgram Unit :=
  if roles.contains claims.role then return
  else throw { statusCode := 403, detail := "insufficient_role" }

/-- This is `_require_rotation`. -/
def requireRotation (rotationId workspaceId : Uuid) : RequestProgram Rotation := do
  match ← (select (.rotation rotationId workspaceId) : RotationProgram (Option Rotation)) with
  | some rotation => return rotation
  | none => throw { statusCode := 404, detail := "rotation_not_found" }

/-- The job that a handler enqueues for a rotation. -/
def rotationJob (rotation : Rotation) (rotationId workspaceId : Uuid) (actor : String) : Job where
  rotationId := rotationId
  workspaceId := workspaceId
  secretId := rotation.secretId
  actor := actor

/-- An approval writes an audit entry and a job, but not the rotation status. -/
def approveRotation (workspaceId rotationId : Uuid) (claims : TokenClaims) : RequestProgram Json := do
  requireRole ["owner", "approver"] claims
  let rotation ← requireRotation rotationId workspaceId
  if rotation.status ≠ .pendingApproval then
    throw {
      statusCode := 409
      detail := "Cannot approve rotation in status '" ++ rotation.status.value ++ "'" }
  else do
    auditRotation workspaceId claims.sub "rotation.approved" rotationId
      (some [statusField .pendingApproval]) (some [statusField .provisioning])
    commit
    enqueueJob (rotationJob rotation rotationId workspaceId claims.sub)
    return okEnvelope [rotationField rotationId, statusField .pendingApproval,
      ("message", .str ("Rotation approved — engine enqueued, status will advance once " ++
        "the worker picks up the job"))]

/-- A rejection ends a rotation that waits for approval or for a confirmation. -/
def rejectRotation (workspaceId rotationId : Uuid) (claims : TokenClaims) : RequestProgram Json := do
  requireRole ["owner", "approver"] claims
  let rotation ← requireRotation rotationId workspaceId
  if rotation.status ≠ .pendingApproval ∧ rotation.status ≠ .awaitingConfirmation then
    throw {
      statusCode := 409
      detail := "Cannot reject rotation in status '" ++ rotation.status.value ++ "'" }
  else do
    setRotationStatus rotationId workspaceId .rejected
    auditRotation workspaceId claims.sub "rotation.rejected" rotationId
      (some [statusField rotation.status]) (some [statusField .rejected])
    commit
    return okEnvelope [rotationField rotationId, statusField .rejected]

/-- A confirmation marks any pending step of a rotation that waits for a confirmation. -/
def confirmStep (workspaceId rotationId stepId : Uuid) (claims : TokenClaims) :
    RequestProgram Json := do
  requireRole ["owner", "approver"] claims
  let rotation ← requireRotation rotationId workspaceId
  if rotation.status ≠ .awaitingConfirmation then
    throw {
      statusCode := 409
      detail := "Rotation is not awaiting confirmation (status: '" ++ rotation.status.value ++ "')" }
  else do
    match ← (select (.step stepId rotationId) : RotationProgram (Option RotationStep)) with
    | none => throw { statusCode := 404, detail := "step_not_found" }
    | some step =>
        if step.status ≠ .pending then
          throw {
            statusCode := 409
            detail := "Step is not pending (status: '" ++ step.status.value ++ "')" }
        else do
          let time : Time ← (now : RotationProgram Time)
          write (.step stepId { confirmedAt := some time })
          auditRotation workspaceId claims.sub "rotation.step.confirmed" rotationId none
            (some [("step_id", .uuid stepId), ("step_idx", .int step.idx),
              ("kind", .str step.kind.value)])
          commit
          enqueueJob (rotationJob rotation rotationId workspaceId claims.sub)
          return okEnvelope [rotationField rotationId, ("step_id", .uuid stepId),
            ("status", .str "confirmed"), ("message", .str "Step confirmed — engine re-enqueued")]

/-- This is the actor of the demo session service. -/
def demoActor : String := "demo-agent"

/-- The entries that a simulated failure writes for its rotation. -/
def simulatedAudit : List (String × List (String × Json)) :=
  [("rotation.approved", [statusField .provisioning]),
    ("rotation.step.provision.done", [("step", .int 0), ("kind", .str "provision")]),
    ("rotation.step.distribute.done", [("step", .int 1), ("kind", .str "distribute")]),
    ("rotation.step.verify.done", [("step", .int 2), ("kind", .str "verify")]),
    ("rotation.step.revoke.failed", [("step", .int 3), ("error", .str "AccessDenied")]),
    ("rotation.rolling_back", [statusField .rollingBack]),
    ("rotation.rolled_back", [statusField .rolledBack, ("note", .str "old key still valid")])]

/-- The audit entries are written one after the other. -/
def auditAll (workspaceId rotationId : Uuid) (sessionId : String) :
    List (String × List (String × Json)) → RotationProgram Unit
  | [] => return
  | (action, after) :: rest => do
      write (.audit
        { workspaceId, actor := demoActor, action, targetType := some "rotation",
          targetId := some rotationId, after := some after, correlationId := some sessionId })
      auditAll workspaceId rotationId sessionId rest

/-- A simulated failure has no session, no pending rotation, or a rolled back rotation. Where
`scalar_one_or_none` finds two pending rotations it raises. -/
inductive Simulated where
  | sessionNotFound
  | noPendingRotation
  | multipleResultsFound
  | rolledBack (workspaceId rotationId : Uuid)
  deriving DecidableEq, Repr

/-- This is `simulate_failure`. It writes the outcome of a failed revoke step at once. -/
def simulateFailure (sessionId : String) : RotationProgram Simulated := do
  match ← select (.demoWorkspace sessionId) with
  | none => return .sessionNotFound
  | some workspaceId => do
      match ← select (.pendingRotations workspaceId) with
      | [] => return .noPendingRotation
      | _ :: _ :: _ => return .multipleResultsFound
      | [rotation] => do
          let time : Time ← now
          write (.stepsAt rotation.id [0, 1, 2]
            { status := some .done, executedAt := some time })
          write (.stepsAt rotation.id [3]
            { status := some .failed, executedAt := some time
              error := some (some "Simulated: AWS IAM DeleteAccessKey returned AccessDenied") })
          write (.stepsAt rotation.id [0, 1] { status := some .compensated })
          write (.rotationStatus rotation.id none .rolledBack time)
          auditAll workspaceId rotation.id sessionId simulatedAudit
          commit
          publish workspaceId "rotation.rolling_back" [rotationField rotation.id]
          publish workspaceId "rotation.rolled_back"
            [rotationField rotation.id, ("note", .str "old key still valid")]
          return .rolledBack workspaceId rotation.id

end Sprawl
