/-
This file gives the tables that the api reads and writes, with the constraints of their schema.
-/

import Sprawl.Audit.Chain

namespace Sprawl

/-- A JSONB column holds the fields of an object. -/
abbrev Document := List (String × Json)

/-- An integer under a key of a document. -/
def Document.int? (document : Document) (key : String) : Option Int :=
  match document.lookup key with
  | some (.int value) => some value
  | _ => none

/-- A text under a key of a document. -/
def Document.str? (document : Document) (key : String) : Option String :=
  match document.lookup key with
  | some (.str value) => some value
  | _ => none

structure Secret where
  id : Uuid
  workspaceId : Uuid
  fingerprint : String
  type : String
  provider : Option String
  health : SecretHealth
  environment : Environment
  exposureStatus : ExposureStatus
  severityScore : Option Int
  severityBucket : Option SeverityBucket
  rotatable : Bool
  firstSeen : Time
  lastSeen : Time
  deriving DecidableEq, Repr

structure Investigation where
  id : Uuid
  workspaceId : Uuid
  secretId : Uuid
  status : InvestigationStatus
  traceId : Option String
  coverage : Option Document
  startedAt : Time
  finishedAt : Option Time

/-- This is `FindingState`. -/
inductive FindingState where
  | new
  | triaged
  | confirmed
  | falsePositive
  | ignored
  deriving DecidableEq, Repr

/-- This is a row of `findings`. Nothing inserts a repository, so its `repo_id` is `NULL` and the
unique constraint on its identity lets every row in. -/
structure Finding where
  id : Uuid
  workspaceId : Uuid
  secretId : Option Uuid
  detector : String
  ruleId : Option String
  commitSha : Option String
  filePath : Option String
  line : Option Int
  matchHash : String
  state : FindingState

structure GraphNode where
  id : Uuid
  workspaceId : Uuid
  secretId : Uuid
  kind : NodeKind
  label : String
  environment : Environment
  attrs : Document

structure GraphEdge where
  id : Uuid
  workspaceId : Uuid
  secretId : Uuid
  srcNodeId : Uuid
  dstNodeId : Uuid
  kind : EdgeKind
  confidence : Confidence
  attrs : Document

structure Severity where
  id : Uuid
  workspaceId : Uuid
  secretId : Uuid
  score : Int
  factors : Document
  explanation : Option String
  computedAt : Time

/-- This is a row of `rotations`. Its plan and its coverage are documents. -/
structure RotationRecord where
  id : Uuid
  workspaceId : Uuid
  secretId : Uuid
  status : RotationStatus
  plan : Option Document
  planError : Option String
  coverage : Document
  newSecretRef : Option NewSecretRef
  planExpiresAt : Option Time
  createdBy : Option Uuid
  createdAt : Time
  updatedAt : Time

/-- The engine and the request handlers read a rotation in this form. -/
def RotationRecord.rotation (record : RotationRecord) : Rotation where
  id := record.id
  workspaceId := record.workspaceId
  secretId := record.secretId
  status := record.status
  plan := record.plan.map fun plan =>
    { storePath := plan.str? "store_path"
      otherKeys := (plan.map (·.1)).filter (· ≠ "store_path") }
  coverage :=
    { knownConsumers := record.coverage.int? "known_consumers"
      unknownConsumers := record.coverage.int? "unknown_consumers" }
  newSecretRef := record.newSecretRef
  planExpiresAt := record.planExpiresAt
  createdAt := record.createdAt
  updatedAt := record.updatedAt

/-- This is a row of `rotation_steps`. Its target and its compensation are documents. -/
structure StepRecord where
  id : Uuid
  workspaceId : Uuid
  rotationId : Uuid
  idx : Int
  kind : StepKind
  target : Document
  compensation : Option Document
  requiresConfirmation : Bool
  status : StepStatus
  confirmedAt : Option Time
  executedAt : Option Time
  error : Option String

/-- The engine and the request handlers read a step in this form. -/
def StepRecord.step (record : StepRecord) : RotationStep where
  id := record.id
  workspaceId := record.workspaceId
  rotationId := record.rotationId
  idx := record.idx
  kind := record.kind
  target :=
    { type := record.target.str? "type"
      account := record.target.str? "account"
      username := record.target.str? "username"
      keyId := record.target.str? "key_id" }
  compensation := record.compensation.map fun compensation =>
    { action := compensation.str? "action" }
  requiresConfirmation := record.requiresConfirmation
  status := record.status
  confirmedAt := record.confirmedAt
  executedAt := record.executedAt
  error := record.error

/-- An update of `rotation_steps` sets the columns of a row. -/
def StepPatch.applyRecord (patch : StepPatch) (record : StepRecord) : StepRecord :=
  { record with
    status := patch.status.getD record.status
    executedAt := patch.executedAt.or record.executedAt
    error := patch.error.getD record.error
    confirmedAt := patch.confirmedAt.or record.confirmedAt
    requiresConfirmation := record.requiresConfirmation && patch.confirmedAt.isNone }

/-- An update of the row is the update of the step that the engine reads from it. -/
@[simp] theorem StepPatch.applyRecord_step (patch : StepPatch) (record : StepRecord) :
    (patch.applyRecord record).step = patch.apply record.step := rfl

/-- The tables, the next value of the audit sequence and the clock of the database. -/
structure Database where
  users : List Uuid
  workspaces : List Workspace
  secrets : List Secret
  findings : List Finding
  investigations : List Investigation
  graphNodes : List GraphNode
  graphEdges : List GraphEdge
  severities : List Severity
  rotations : List RotationRecord
  rotationSteps : List StepRecord
  auditLog : List AuditLog
  nextAuditId : Nat
  clock : Time

/-- A foreign key points into the identifiers of a table. -/
def References {ρ : Type} (table : List ρ) (key : ρ → Uuid) (ids : List Uuid) : Prop :=
  ∀ row ∈ table, key row ∈ ids

namespace Database

/-- The constraints of the schema: primary keys, foreign keys, unique indexes and checks. -/
structure Valid (db : Database) : Prop where
  usersUnique : db.users.Nodup
  workspacesUnique : (db.workspaces.map (·.id)).Nodup
  secretsUnique : (db.secrets.map (·.id)).Nodup
  fingerprintsUnique : (db.secrets.map fun secret => (secret.workspaceId, secret.fingerprint)).Nodup
  secretsOwned : References db.secrets (·.workspaceId) (db.workspaces.map (·.id))
  findingsUnique : (db.findings.map (·.id)).Nodup
  findingsOwned : References db.findings (·.workspaceId) (db.workspaces.map (·.id))
  findingsOfSecrets : ∀ finding ∈ db.findings, ∀ secretId ∈ finding.secretId,
    secretId ∈ db.secrets.map (·.id)
  investigationsUnique : (db.investigations.map (·.id)).Nodup
  investigationsOwned : References db.investigations (·.workspaceId) (db.workspaces.map (·.id))
  investigationsOfSecrets : References db.investigations (·.secretId) (db.secrets.map (·.id))
  oneActiveInvestigation :
    ((db.investigations.filter (·.status = .running)).map (·.secretId)).Nodup
  nodesUnique : (db.graphNodes.map (·.id)).Nodup
  nodesOwned : References db.graphNodes (·.workspaceId) (db.workspaces.map (·.id))
  nodesOfSecrets : References db.graphNodes (·.secretId) (db.secrets.map (·.id))
  edgesUnique : (db.graphEdges.map (·.id)).Nodup
  edgesOwned : References db.graphEdges (·.workspaceId) (db.workspaces.map (·.id))
  edgesOfSecrets : References db.graphEdges (·.secretId) (db.secrets.map (·.id))
  edgeSources : References db.graphEdges (·.srcNodeId) (db.graphNodes.map (·.id))
  edgeTargets : References db.graphEdges (·.dstNodeId) (db.graphNodes.map (·.id))
  severitiesUnique : (db.severities.map (·.id)).Nodup
  severitiesOwned : References db.severities (·.workspaceId) (db.workspaces.map (·.id))
  severitiesOfSecrets : References db.severities (·.secretId) (db.secrets.map (·.id))
  rotationsUnique : (db.rotations.map (·.id)).Nodup
  rotationsOwned : References db.rotations (·.workspaceId) (db.workspaces.map (·.id))
  rotationsOfSecrets : References db.rotations (·.secretId) (db.secrets.map (·.id))
  creatorsKnown : ∀ rotation ∈ db.rotations, ∀ user ∈ rotation.createdBy, user ∈ db.users
  planPresent : ∀ rotation ∈ db.rotations,
    rotation.plan.isSome ∨ rotation.status = .proposed ∨ rotation.status = .planFailed
  oneActiveRotation :
    ((db.rotations.filter fun rotation => !rotation.status.isTerminal).map (·.secretId)).Nodup
  stepsUnique : (db.rotationSteps.map (·.id)).Nodup
  stepIndexesUnique : (db.rotationSteps.map fun step => (step.rotationId, step.idx)).Nodup
  stepsOwned : References db.rotationSteps (·.workspaceId) (db.workspaces.map (·.id))
  stepsOfRotations : References db.rotationSteps (·.rotationId) (db.rotations.map (·.id))
  auditUnique : (db.auditLog.map (·.id)).Nodup
  auditOwned : References db.auditLog (·.entry.workspaceId) (db.workspaces.map (·.id))
  auditSequence : ∀ row ∈ db.auditLog, row.id < db.nextAuditId

/-- A database without rows. -/
def empty (clock : Time) : Database where
  users := []
  workspaces := []
  secrets := []
  findings := []
  investigations := []
  graphNodes := []
  graphEdges := []
  severities := []
  rotations := []
  rotationSteps := []
  auditLog := []
  nextAuditId := 1
  clock := clock

/-- The rows of one workspace, with what belongs to no workspace. -/
def ofWorkspace (workspaceId : Uuid) (db : Database) : Database :=
  { db with
    workspaces := db.workspaces.filter (·.id = workspaceId)
    secrets := db.secrets.filter (·.workspaceId = workspaceId)
    findings := db.findings.filter (·.workspaceId = workspaceId)
    investigations := db.investigations.filter (·.workspaceId = workspaceId)
    graphNodes := db.graphNodes.filter (·.workspaceId = workspaceId)
    graphEdges := db.graphEdges.filter (·.workspaceId = workspaceId)
    severities := db.severities.filter (·.workspaceId = workspaceId)
    rotations := db.rotations.filter (·.workspaceId = workspaceId)
    rotationSteps := db.rotationSteps.filter (·.workspaceId = workspaceId)
    auditLog := db.auditLog.filter (·.entry.workspaceId = workspaceId) }

variable [Sha256] (db : Database)

def updateRotations (selected : RotationRecord → Bool) (change : RotationRecord → RotationRecord) :
    Database :=
  { db with rotations := db.rotations.map fun row => if selected row then change row else row }

def updateSteps (selected : StepRecord → Bool) (patch : StepPatch) : Database :=
  { db with
    rotationSteps := db.rotationSteps.map fun row =>
      if selected row then patch.applyRecord row else row }

def audit (entry : AuditEntry) : Database :=
  { db with
    auditLog := appendAudit db.nextAuditId db.clock entry db.auditLog
    nextAuditId := db.nextAuditId + 1 }

/-- A statement of the rotation programs writes the rows that its `WHERE` clause selects. -/
def apply : Write → Database
  | .rotationStatus rotationId workspaceId status now =>
      db.updateRotations
        (fun row => row.id = rotationId && workspaceId.all (row.workspaceId = ·))
        fun row => { row with status := status, updatedAt := now }
  | .newSecretRef rotationId ref now =>
      db.updateRotations (·.id = rotationId)
        fun row => { row with newSecretRef := some ref, updatedAt := now }
  | .step stepId patch => db.updateSteps (·.id = stepId) patch
  | .stepsAt rotationId indexes patch =>
      db.updateSteps (fun row => row.rotationId = rotationId && indexes.contains row.idx) patch
  | .audit entry => db.audit entry

/-- The steps of a rotation in the order of their indexes. -/
def stepsOf (rotationId : Uuid) : List StepRecord :=
  (db.rotationSteps.filter (·.rotationId = rotationId)).mergeSort fun first second =>
    decide (first.idx ≤ second.idx)

def answer : (query : Query) → query.Answer
  | .rotation rotationId workspaceId =>
      (db.rotations.find? fun row => row.id = rotationId && row.workspaceId = workspaceId).map
        (·.rotation)
  | .steps rotationId => (db.stepsOf rotationId).map (·.step)
  | .incompleteVerify rotationId =>
      (db.rotationSteps.filter fun row =>
        row.rotationId = rotationId && row.kind = .verify && row.status ≠ .done).length
  | .step stepId rotationId =>
      (db.rotationSteps.find? fun row => row.id = stepId && row.rotationId = rotationId).map (·.step)
  | .demoWorkspace sessionId =>
      (db.workspaces.find? fun row =>
        row.demoSessionId = some sessionId && row.kind = .demo).map (·.id)
  | .pendingRotations workspaceId =>
      (db.rotations.filter fun row =>
        row.workspaceId = workspaceId && row.status = .pendingApproval).map (·.rotation)

instance : SqlStore Database where
  answer query db := db.answer query
  apply write db := db.apply write

end Database

end Sprawl
