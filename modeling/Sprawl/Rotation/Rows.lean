/-
This file gives the rows that one rotation's operations read and write, with their SQL statements.
-/

import Mathlib.Data.List.Sort
import Sprawl.Shared.Enums

namespace Sprawl

inductive WorkspaceKind where
  | standard
  | demo
  deriving DecidableEq, Repr

structure Workspace where
  id : Uuid
  kind : WorkspaceKind
  demoSessionId : Option String
  expiresAt : Option Time
  deriving DecidableEq, Repr

/-- The engine reads `store_path` from the plan and asks whether the plan has a key at all. -/
structure Plan where
  storePath : Option String
  otherKeys : List String
  deriving DecidableEq, Repr

/-- An empty plan counts as no plan. -/
def Plan.isEmpty (plan : Plan) : Bool := plan.storePath.isNone && plan.otherKeys.isEmpty

structure Coverage where
  knownConsumers : Option Int
  unknownConsumers : Option Int
  deriving DecidableEq, Repr

/-- A provision step stores this as `rotations.new_secret_ref`. -/
structure NewSecretRef where
  connectorType : String
  path : String
  version : String
  credentialId : String
  accessKeyId : Option String
  deriving DecidableEq, Repr

structure Rotation where
  id : Uuid
  workspaceId : Uuid
  secretId : Uuid
  status : RotationStatus
  plan : Option Plan
  coverage : Coverage
  newSecretRef : Option NewSecretRef
  planExpiresAt : Option Time
  createdAt : Time
  updatedAt : Time
  deriving DecidableEq, Repr

/-- The rotation has a plan with at least one key. -/
def Rotation.hasPlan (rotation : Rotation) : Bool :=
  match rotation.plan with
  | none => false
  | some plan => !plan.isEmpty

/-- The executors read these keys of `rotation_steps.target`. -/
structure StepTarget where
  type : Option String := none
  account : Option String := none
  username : Option String := none
  keyId : Option String := none
  deriving DecidableEq, Repr

structure Compensation where
  action : Option String
  deriving DecidableEq, Repr

structure RotationStep where
  id : Uuid
  workspaceId : Uuid
  rotationId : Uuid
  idx : Int
  kind : StepKind
  target : StepTarget
  compensation : Option Compensation
  requiresConfirmation : Bool
  status : StepStatus
  confirmedAt : Option Time
  executedAt : Option Time
  error : Option String
  deriving DecidableEq, Repr

/-- An audit entry holds the columns that a caller of `audit` chooses. -/
structure AuditEntry where
  workspaceId : Uuid
  actor : String
  action : String
  targetType : Option String := none
  targetId : Option Uuid := none
  before : Option (List (String × Json)) := none
  after : Option (List (String × Json)) := none
  correlationId : Option String := none

/-- The columns that an `UPDATE rotation_steps` sets. An absent entry leaves its column alone. -/
structure StepPatch where
  status : Option StepStatus := none
  executedAt : Option Time := none
  error : Option (Option String) := none
  confirmedAt : Option Time := none
  deriving DecidableEq, Repr

/-- Only a confirmation sets `confirmed_at`, and it clears `requires_confirmation` with it. -/
def StepPatch.apply (patch : StepPatch) (step : RotationStep) : RotationStep :=
  { step with
    status := patch.status.getD step.status
    executedAt := patch.executedAt.or step.executedAt
    error := patch.error.getD step.error
    confirmedAt := patch.confirmedAt.or step.confirmedAt
    requiresConfirmation := step.requiresConfirmation && patch.confirmedAt.isNone }

namespace StepPatch

variable (patch : StepPatch) (step : RotationStep)

@[simp] theorem apply_id : (patch.apply step).id = step.id := rfl
@[simp] theorem apply_rotationId : (patch.apply step).rotationId = step.rotationId := rfl
@[simp] theorem apply_idx : (patch.apply step).idx = step.idx := rfl
@[simp] theorem apply_kind : (patch.apply step).kind = step.kind := rfl
@[simp] theorem apply_target : (patch.apply step).target = step.target := rfl
@[simp] theorem apply_compensation : (patch.apply step).compensation = step.compensation := rfl
@[simp] theorem apply_status : (patch.apply step).status = patch.status.getD step.status := rfl
@[simp] theorem apply_requiresConfirmation : (patch.apply step).requiresConfirmation =
    (step.requiresConfirmation && patch.confirmedAt.isNone) := rfl
@[simp] theorem apply_confirmedAt :
    (patch.apply step).confirmedAt = patch.confirmedAt.or step.confirmedAt := rfl

end StepPatch

/-- An `UPDATE rotation_steps` patches the rows that its condition selects. -/
def updateSteps (selected : RotationStep → Bool) (patch : StepPatch)
    (steps : List RotationStep) : List RotationStep :=
  steps.map fun step => if selected step then patch.apply step else step

/-- An update keeps every value that its patch keeps. -/
theorem updateSteps_map {α : Type} (field : RotationStep → α)
    {patch : StepPatch} (kept : ∀ step, field (patch.apply step) = field step)
    (selected : RotationStep → Bool) (steps : List RotationStep) :
    (updateSteps selected patch steps).map field = steps.map field := by
  simp only [updateSteps, List.map_map]
  apply List.map_congr_left
  intro step _
  simp only [Function.comp_apply]
  split
  · exact kept step
  · rfl

theorem mem_updateSteps {selected : RotationStep → Bool} {patch : StepPatch}
    {steps : List RotationStep} {step : RotationStep} :
    step ∈ updateSteps selected patch steps ↔
      ∃ old ∈ steps, step = if selected old then patch.apply old else old := by
  simp only [updateSteps, List.mem_map, eq_comm]

/-- The statements that write. -/
inductive Write where
  | rotationStatus (rotationId : Uuid) (workspaceId : Option Uuid) (status : RotationStatus)
      (now : Time)
  | newSecretRef (rotationId : Uuid) (ref : NewSecretRef) (now : Time)
  | step (stepId : Uuid) (patch : StepPatch)
  | stepsAt (rotationId : Uuid) (indexes : List Int) (patch : StepPatch)
  | audit (entry : AuditEntry)

/-- The statements that read. -/
inductive Query where
  | rotation (rotationId workspaceId : Uuid)
  | steps (rotationId : Uuid)
  | incompleteVerify (rotationId : Uuid)
  | step (stepId rotationId : Uuid)
  | demoWorkspace (sessionId : String)
  | pendingRotations (workspaceId : Uuid)
  deriving DecidableEq, Repr

abbrev Query.Answer : Query → Type
  | .rotation _ _ => Option Rotation
  | .steps _ => List RotationStep
  | .incompleteVerify _ => Nat
  | .step _ _ => Option RotationStep
  | .demoWorkspace _ => Option Uuid
  | .pendingRotations _ => List Rotation

/-- A SQL store answers the queries and applies the writes. -/
class SqlStore (D : Type) where
  answer : (query : Query) → D → query.Answer
  apply : Write → D → D

/-- `ORDER BY idx ASC` -/
def byIdx (first second : RotationStep) : Prop := first.idx ≤ second.idx

instance : DecidableRel byIdx := fun first second => inferInstanceAs (Decidable (first.idx ≤ second.idx))

/-- `UPDATE rotations SET status = :status, updated_at = :now` on one row. -/
def Rotation.withStatus (rotation : Rotation) (status : RotationStatus) (now : Time) : Rotation :=
  { rotation with status := status, updatedAt := now }

/-- `UPDATE rotations SET new_secret_ref = :ref, updated_at = :now` on one row. -/
def Rotation.withNewSecretRef (rotation : Rotation) (ref : NewSecretRef) (now : Time) : Rotation :=
  { rotation with newSecretRef := some ref, updatedAt := now }

section RotationFields

variable (rotation : Rotation) (status : RotationStatus) (now : Time) (ref : NewSecretRef)

@[simp] theorem Rotation.withStatus_id : (rotation.withStatus status now).id = rotation.id := rfl
@[simp] theorem Rotation.withStatus_workspaceId :
    (rotation.withStatus status now).workspaceId = rotation.workspaceId := rfl
@[simp] theorem Rotation.withStatus_secretId :
    (rotation.withStatus status now).secretId = rotation.secretId := rfl
@[simp] theorem Rotation.withStatus_status : (rotation.withStatus status now).status = status := rfl
@[simp] theorem Rotation.withStatus_plan :
    (rotation.withStatus status now).plan = rotation.plan := rfl
@[simp] theorem Rotation.withStatus_newSecretRef :
    (rotation.withStatus status now).newSecretRef = rotation.newSecretRef := rfl
@[simp] theorem Rotation.withStatus_planExpiresAt :
    (rotation.withStatus status now).planExpiresAt = rotation.planExpiresAt := rfl
@[simp] theorem Rotation.withNewSecretRef_id :
    (rotation.withNewSecretRef ref now).id = rotation.id := rfl
@[simp] theorem Rotation.withNewSecretRef_workspaceId :
    (rotation.withNewSecretRef ref now).workspaceId = rotation.workspaceId := rfl
@[simp] theorem Rotation.withNewSecretRef_secretId :
    (rotation.withNewSecretRef ref now).secretId = rotation.secretId := rfl
@[simp] theorem Rotation.withNewSecretRef_status :
    (rotation.withNewSecretRef ref now).status = rotation.status := rfl
@[simp] theorem Rotation.withNewSecretRef_plan :
    (rotation.withNewSecretRef ref now).plan = rotation.plan := rfl
@[simp] theorem Rotation.withNewSecretRef_newSecretRef :
    (rotation.withNewSecretRef ref now).newSecretRef = some ref := rfl
@[simp] theorem Rotation.withNewSecretRef_planExpiresAt :
    (rotation.withNewSecretRef ref now).planExpiresAt = rotation.planExpiresAt := rfl

end RotationFields

/-- The rows of one rotation. The identifiers and the indexes of its steps are unique. -/
structure Rows where
  workspace : Workspace
  rotation : Rotation
  steps : List RotationStep
  auditLog : List AuditEntry
  inWorkspace : rotation.workspaceId = workspace.id
  owned : ∀ step ∈ steps, step.rotationId = rotation.id
  idUnique : (steps.map (·.id)).Nodup
  idxUnique : (steps.map (·.idx)).Nodup

namespace Rows

def withStatus (rows : Rows) (status : RotationStatus) (now : Time) : Rows :=
  { rows with rotation := rows.rotation.withStatus status now
              inWorkspace := rows.inWorkspace
              owned := rows.owned }

def withNewSecretRef (rows : Rows) (ref : NewSecretRef) (now : Time) : Rows :=
  { rows with rotation := rows.rotation.withNewSecretRef ref now
              inWorkspace := rows.inWorkspace
              owned := rows.owned }

def patchSteps (rows : Rows) (selected : RotationStep → Bool) (patch : StepPatch) : Rows :=
  { rows with
    steps := updateSteps selected patch rows.steps
    owned := by
      intro step present
      obtain ⟨old, inside, rfl⟩ := mem_updateSteps.mp present
      split <;> exact rows.owned old inside
    idUnique := by rw [updateSteps_map (·.id) (fun _ => rfl)]; exact rows.idUnique
    idxUnique := by rw [updateSteps_map (·.idx) (fun _ => rfl)]; exact rows.idxUnique }

def withAudit (rows : Rows) (entry : AuditEntry) : Rows :=
  { rows with auditLog := rows.auditLog ++ [entry] }

section Fields

variable (rows : Rows) (status : RotationStatus) (now : Time) (ref : NewSecretRef)
  (selected : RotationStep → Bool) (patch : StepPatch) (entry : AuditEntry)

@[simp] theorem withStatus_rotation :
    (rows.withStatus status now).rotation = rows.rotation.withStatus status now := rfl
@[simp] theorem withStatus_workspace : (rows.withStatus status now).workspace = rows.workspace := rfl
@[simp] theorem withStatus_steps : (rows.withStatus status now).steps = rows.steps := rfl
@[simp] theorem withStatus_auditLog : (rows.withStatus status now).auditLog = rows.auditLog := rfl
@[simp] theorem withNewSecretRef_rotation :
    (rows.withNewSecretRef ref now).rotation = rows.rotation.withNewSecretRef ref now := rfl
@[simp] theorem withNewSecretRef_workspace :
    (rows.withNewSecretRef ref now).workspace = rows.workspace := rfl
@[simp] theorem withNewSecretRef_steps : (rows.withNewSecretRef ref now).steps = rows.steps := rfl
@[simp] theorem withNewSecretRef_auditLog :
    (rows.withNewSecretRef ref now).auditLog = rows.auditLog := rfl
@[simp] theorem patchSteps_rotation : (rows.patchSteps selected patch).rotation = rows.rotation := rfl
@[simp] theorem patchSteps_workspace :
    (rows.patchSteps selected patch).workspace = rows.workspace := rfl
@[simp] theorem patchSteps_steps :
    (rows.patchSteps selected patch).steps = updateSteps selected patch rows.steps := rfl
@[simp] theorem patchSteps_auditLog : (rows.patchSteps selected patch).auditLog = rows.auditLog := rfl
@[simp] theorem withAudit_rotation : (rows.withAudit entry).rotation = rows.rotation := rfl
@[simp] theorem withAudit_workspace : (rows.withAudit entry).workspace = rows.workspace := rfl
@[simp] theorem withAudit_steps : (rows.withAudit entry).steps = rows.steps := rfl
@[simp] theorem withAudit_auditLog : (rows.withAudit entry).auditLog = rows.auditLog ++ [entry] := rfl

end Fields

/-- A statement writes the rows that its `WHERE` clause selects. -/
def apply (rows : Rows) : Write → Rows
  | .rotationStatus rotationId workspaceId status now =>
      if rows.rotation.id = rotationId ∧ ∀ owner ∈ workspaceId, rows.rotation.workspaceId = owner then
        rows.withStatus status now
      else rows
  | .newSecretRef rotationId ref now =>
      if rows.rotation.id = rotationId then rows.withNewSecretRef ref now else rows
  | .step stepId patch => rows.patchSteps (fun step => step.id = stepId) patch
  | .stepsAt rotationId indexes patch =>
      rows.patchSteps (fun step => step.rotationId = rotationId && indexes.contains step.idx) patch
  | .audit entry => rows.withAudit entry

/-- The steps in the order that the engine loads them. -/
def ordered (rows : Rows) : List RotationStep := rows.steps.insertionSort byIdx

def answer (rows : Rows) : (query : Query) → query.Answer
  | .rotation rotationId workspaceId =>
      if rows.rotation.id = rotationId ∧ rows.rotation.workspaceId = workspaceId then
        some rows.rotation
      else none
  | .steps rotationId => (rows.steps.filter (·.rotationId = rotationId)).insertionSort byIdx
  | .incompleteVerify rotationId =>
      (rows.steps.filter fun step =>
        step.rotationId = rotationId && step.kind = .verify && step.status ≠ .done).length
  | .step stepId rotationId =>
      rows.steps.find? fun step => step.id = stepId && step.rotationId = rotationId
  | .demoWorkspace sessionId =>
      if rows.workspace.demoSessionId = some sessionId ∧ rows.workspace.kind = .demo then
        some rows.workspace.id
      else none
  | .pendingRotations workspaceId =>
      if rows.rotation.workspaceId = workspaceId ∧ rows.rotation.status = .pendingApproval then
        [rows.rotation]
      else []

instance : SqlStore Rows where
  answer query rows := rows.answer query
  apply write rows := rows.apply write

end Rows

end Sprawl
